import MarkdownAdf.Outline.Reader
import MarkdownAdf.Proofs.Outline.Balance
import MarkdownAdf.Proofs.Outline.Nesting

/-!
# Reading well-formed tokens up to a place

What the reader has open behind a prefix of well-formed tokens is what the prefix leaves open. So
the tokens that close it are read one by one, each by the level that waits for it, and the outline
is the same with them, but for the ends of rows and heads that they mark in a table.
-/

namespace MarkdownAdf.Outline

/-! ### Closing tokens and tasks

The scan for a checkbox finds nothing in tokens none of which is inline. -/

theorem State.read_append (s : State) (t : Token) (rest : List Token) {closers : List Token}
    (h : ∀ t ∈ closers, t.kind ≠ .inline) : s.read t (rest ++ closers) = s.read t rest := by
  have htask : t.opensTask (rest ++ closers) = t.opensTask rest := by
    apply Token.opensTask_congr
    rw [Token.ownsCheckbox_append]
    exact or_iff_left fun hbehind => Token.not_ownsCheckbox_of_ne_inline h hbehind.2
  cases s <;> simp only [State.read, htask]

theorem State.readAll_append (s : State) (tokens : List Token) {closers : List Token}
    (h : ∀ t ∈ closers, t.kind ≠ .inline) :
    s.readAll (tokens ++ closers) = (s.readAll tokens).readAll closers := by
  induction tokens generalizing s with
  | nil => rfl
  | cons t rest ih => rw [List.cons_append, readAll, readAll, read_append s t rest h, ih]

/-! ### What is open in the reader -/

/-- The containers around a place, the innermost first. -/
def Context.containers : Context → List Container
  | .top => []
  | .quote _ _ outer => .quote :: outer.containers
  | .item _ ordered _ _ _ _ outer => .item :: .list ordered :: outer.containers

def Leaf.container : Leaf → Container
  | .paragraph => .paragraph
  | .heading => .heading

/-- What is open in a table outside its rows. -/
inductive InTable (context : Context) : List Container → Prop where
  | table : InTable context (.table :: context.containers)
  | head : InTable context (.head :: .table :: context.containers)
  | body : InTable context (.body :: .table :: context.containers)

/-- The reader has the containers of a stack open, behind a token of a kind. A row without cells has
just been opened. -/
inductive Reads : Option TokenKind → State → List Container → Prop where
  | atBlock (last context blocks) : Reads last (.atBlock context blocks) context.containers
  | inLeaf (last context blocks) (leaf : Leaf) (opening body) :
      Reads last (.inLeaf context blocks leaf opening body) (leaf.container :: context.containers)
  | inList (last context blocks opening ordered items) :
      Reads last (.inList context blocks opening ordered items)
        (.list ordered :: context.containers)
  | inTable (last blocks opening parts) {context stack} (h : InTable context stack) :
      Reads last (.inTable context blocks opening parts) stack
  | atRow (blocks opening parts) {context stack} (h : InTable context stack) :
      Reads (some .rowOpen) (.inTable context blocks opening parts) (.row :: stack)
  | inRow (last blocks opening parts header body) {context stack} (h : InTable context stack) :
      Reads last (.inTable context blocks opening (.cell header body :: parts)) (.row :: stack)
  | inCell (last blocks opening parts header body) {context stack} (h : InTable context stack) :
      Reads last (.inCell context blocks opening parts header body)
        (.cell header :: .row :: stack)

theorem Context.closing_eq (context : Context) :
    context.closing = context.containers.head?.map Container.closing := by
  cases context <;> rfl

theorem Context.holds_eq (context : Context) (kind : TokenKind) :
    Container.holds context.containers.head? kind = Container.startsBlock kind := by
  cases context <;> rfl

theorem Context.reads_leave (last : Option TokenKind) (blocks : List Block) {context : Context}
    {c : Container} {stack : List Container} (h : context.containers = c :: stack) :
    Reads last (context.leave blocks) stack := by
  cases context with
  | top => cases h
  | quote opening before outer =>
      cases h
      exact .atBlock ..
  | item list ordered items opening task before outer =>
      cases h
      exact .inList ..

/-! ### One token -/

section Step

variable {context : Context} {stack stack' : List Container} {t : Token}

theorem reads_readBlock (context : Context) (blocks : List Block)
    (h : Container.startsBlock t.kind = true) :
    Reads (some t.kind) (.readBlock context blocks t)
      ((Container.opened? t.kind).toList ++ context.containers) := by
  rw [State.readBlock]
  cases hkind : t.kind with
  | paragraphOpen => exact .inLeaf _ context blocks .paragraph t none
  | headingOpen => exact .inLeaf _ context blocks .heading t none
  | listOpen ordered => exact .inList _ context blocks t ordered []
  | quoteOpen => exact .atBlock _ (.quote t blocks context) []
  | tableOpen => exact .inTable _ blocks t [] .table
  | fence | codeBlock | rule | inline => exact .atBlock _ context _
  | other name =>
      have hname : name ≠ "tbody_open" := by
        rintro rfl
        rw [hkind] at h
        cases h
      rw [Container.opened?, if_neg hname]
      exact .atBlock _ context _
  | _ =>
      rw [hkind] at h
      cases h

theorem reads_atBlock (blocks : List Block) (rest : List Token)
    (h : Container.step context.containers t.kind = some stack') :
    Reads (some t.kind) ((State.atBlock context blocks).read t rest) stack' := by
  rw [State.read, context.closing_eq]
  rcases Container.step_eq_some h with ⟨c, hstack, hkind⟩ | ⟨hclosing, hholds, rfl⟩
  · have hclosing : context.containers.head?.map Container.closing = some t.kind := by
      rw [hstack, hkind]
      rfl
    rw [if_pos hclosing]
    exact Context.reads_leave _ blocks hstack
  · rw [if_neg hclosing]
    exact reads_readBlock context blocks (context.holds_eq t.kind ▸ hholds)

/-- A leaf holds inline tokens, which leave it open. -/
theorem reads_inLeaf (blocks : List Block) (leaf : Leaf) (opening : Token) (body : Option Token)
    (rest : List Token)
    (h : Container.step (leaf.container :: context.containers) t.kind = some stack') :
    Reads (some t.kind) ((State.inLeaf context blocks leaf opening body).read t rest) stack' := by
  have hleaf : leaf.container.closing = leaf.closing := by cases leaf <;> rfl
  rw [State.read]
  rcases Container.step_eq_some h with ⟨c, hstack, hkind⟩ | ⟨hclosing, hholds, rfl⟩
  · cases hstack
    rw [if_pos (hkind.trans hleaf)]
    exact .atBlock _ context _
  · have hkind : t.kind = .inline := by cases leaf <;> exact of_decide_eq_true hholds
    have hne : ¬t.kind = leaf.closing := by cases leaf <;> simp [hkind, Leaf.closing]
    rw [if_neg hne, hkind]
    exact .inLeaf _ context blocks leaf opening _

theorem reads_inList (blocks : List Block) (opening : Token) (ordered : Bool) (items : List Item)
    (rest : List Token)
    (h : Container.step (.list ordered :: context.containers) t.kind = some stack') :
    Reads (some t.kind) ((State.inList context blocks opening ordered items).read t rest)
      stack' := by
  rw [State.read]
  rcases Container.step_eq_some h with ⟨c, hstack, hkind⟩ | ⟨hclosing, hholds, rfl⟩
  · cases hstack
    have hclose : t.kind = .listClose ordered := hkind
    rw [if_pos hclose]
    exact .atBlock _ context _
  · have hkind : t.kind = .itemOpen := of_decide_eq_true hholds
    have hne : ¬t.kind = .listClose ordered := by simp [hkind]
    rw [if_neg hne, if_pos hkind, hkind]
    exact .atBlock _ (.item opening ordered items t _ blocks context) []

/-- A table and its head and body hold rows. -/
theorem reads_inTable (blocks : List Block) (opening : Token)
    (parts : List (TablePart (Option Token))) (rest : List Token) (hin : InTable context stack)
    (h : Container.step stack t.kind = some stack') :
    Reads (some t.kind) ((State.inTable context blocks opening parts).read t rest) stack' := by
  rw [State.read, State.readTable]
  rcases Container.step_eq_some h with ⟨c, hstack, hkind⟩ | ⟨hclosing, hholds, rfl⟩
  · cases hin with
    | table =>
        cases hstack
        rw [hkind]
        exact .atBlock _ context _
    | head | body =>
        cases hstack
        rw [hkind]
        exact .inTable _ blocks opening _ .table
  · cases hin with
    | table =>
        have hkind : t.kind = .headOpen ∨ t.kind = .other "tbody_open" ∨ t.kind = .rowOpen := by
          simpa [Container.holds, or_assoc] using hholds
        rcases hkind with hkind | hkind | hkind
        · rw [hkind]
          exact .inTable _ blocks opening _ .head
        · rw [hkind]
          exact .inTable _ blocks opening _ .body
        · rw [hkind]
          exact .atRow blocks opening _ .table
    | head =>
        have hkind : t.kind = .rowOpen := of_decide_eq_true hholds
        rw [hkind]
        exact .atRow blocks opening _ .head
    | body =>
        have hkind : t.kind = .rowOpen := of_decide_eq_true hholds
        rw [hkind]
        exact .atRow blocks opening _ .body

theorem reads_inRow (blocks : List Block) (opening : Token)
    (parts : List (TablePart (Option Token))) (rest : List Token) (hin : InTable context stack)
    (h : Container.step (.row :: stack) t.kind = some stack') :
    Reads (some t.kind) ((State.inTable context blocks opening parts).read t rest) stack' := by
  rw [State.read, State.readTable]
  rcases Container.step_eq_some h with ⟨c, hstack, hkind⟩ | ⟨hclosing, hholds, rfl⟩
  · cases hstack
    rw [hkind]
    exact .inTable _ blocks opening _ hin
  · have hkind : t.kind = .cellOpen false ∨ t.kind = .cellOpen true := by
      simpa [Container.holds] using hholds
    rcases hkind with hkind | hkind <;> rw [hkind] <;> exact .inCell _ blocks opening parts _ _ hin

theorem reads_inCell (blocks : List Block) (opening : Token)
    (parts : List (TablePart (Option Token))) (header : Bool) (body : Option Token)
    (rest : List Token) (hin : InTable context stack)
    (h : Container.step (.cell header :: .row :: stack) t.kind = some stack') :
    Reads (some t.kind) ((State.inCell context blocks opening parts header body).read t rest)
      stack' := by
  rw [State.read]
  rcases Container.step_eq_some h with ⟨c, hstack, hkind⟩ | ⟨hclosing, hholds, rfl⟩
  · cases hstack
    have hclose : t.kind = .cellClose header := hkind
    rw [if_pos hclose]
    exact .inRow _ blocks opening parts header body hin
  · have hkind : t.kind = .inline := of_decide_eq_true hholds
    have hne : ¬t.kind = .cellClose header := by simp [hkind]
    rw [if_neg hne, hkind]
    exact .inCell _ blocks opening parts header _ hin

end Step

/-! ### All tokens -/

/-- A token that may stand where the reader is opens and closes in it what it opens and closes. -/
theorem Reads.read {last : Option TokenKind} {s : State} {stack stack' : List Container}
    {t : Token} (h : Reads last s stack) (hstep : Container.step stack t.kind = some stack')
    (rest : List Token) : Reads (some t.kind) (s.read t rest) stack' := by
  cases h with
  | atBlock => exact reads_atBlock _ rest hstep
  | inLeaf => exact reads_inLeaf _ _ _ _ rest hstep
  | inList => exact reads_inList _ _ _ _ rest hstep
  | inTable _ _ _ _ hin => exact reads_inTable _ _ _ rest hin hstep
  | atRow _ _ _ hin => exact reads_inRow _ _ _ rest hin hstep
  | inRow _ _ _ _ _ _ hin => exact reads_inRow _ _ _ rest hin hstep
  | inCell _ _ _ _ _ _ hin => exact reads_inCell _ _ _ _ _ rest hin hstep

theorem Reads.readAll {last : Option TokenKind} {s : State} {stack stack' : List Container}
    {tokens : List Token} (h : Reads last s stack)
    (hnest : Container.nest stack tokens = some stack') :
    Reads ((tokens.getLast?.map Token.kind).or last) (s.readAll tokens) stack' := by
  induction tokens generalizing last s stack with
  | nil =>
      obtain rfl := Option.some.inj hnest
      exact h
  | cons t rest ih =>
      rw [Container.nest_cons, Option.bind_eq_some_iff] at hnest
      obtain ⟨next, hstep, hrest⟩ := hnest
      have hlast : ((t :: rest).getLast?.map Token.kind).or last =
          (rest.getLast?.map Token.kind).or (some t.kind) := by
        cases hrest : rest.getLast? <;> simp [List.getLast?_cons, hrest]
      rw [hlast]
      exact ih (h.read hstep rest) hrest

/-! ### Closing tokens -/

variable {closers : List Token}

theorem kind_ne_inline_of_map_eq {stack : List Container}
    (h : closers.map Token.kind = stack.map Container.closing) :
    ∀ t ∈ closers, t.kind ≠ .inline := by
  intro t ht
  have hmem : t.kind ∈ stack.map Container.closing := h ▸ List.mem_map_of_mem ht
  obtain ⟨c, -, hc⟩ := List.mem_map.mp hmem
  rw [← hc]
  cases c <;> simp [Container.closing]

/-- The closing tokens of the containers of blocks around a place change nothing. -/
theorem finish_readAll_atBlock (context : Context) (blocks : List Block)
    (h : closers.map Token.kind = context.containers.map Container.closing) :
    ((State.atBlock context blocks).readAll closers).finish = context.finish blocks := by
  induction context generalizing blocks closers with
  | top =>
      obtain rfl := List.map_eq_nil_iff.mp h
      rfl
  | quote opening before outer ih =>
      obtain ⟨t, rest, rfl, hkind, hrest⟩ := List.map_eq_cons_iff.mp h
      have hread : (State.atBlock (.quote opening before outer) blocks).read t rest =
          .atBlock outer (.quote opening blocks.reverse :: before) := by
        rw [State.read, if_pos (by rw [hkind]; rfl), Context.leave]
      rw [State.readAll, hread, ih _ hrest, Context.finish]
  | item list ordered items opening task before outer ih =>
      obtain ⟨t, rest, rfl, hkind, hrest⟩ := List.map_eq_cons_iff.mp h
      obtain ⟨u, rest, rfl, hlist, hrest⟩ := List.map_eq_cons_iff.mp hrest
      have hread : (State.atBlock (.item list ordered items opening task before outer) blocks).read
          t (u :: rest) = .inList outer before list ordered (⟨opening, task, blocks.reverse⟩ ::
            items) := by
        rw [State.read, if_pos (by rw [hkind]; rfl), Context.leave]
      have hclose (found : List Item) : (State.inList outer before list ordered found).read u rest =
          .atBlock outer (.list list ordered found.reverse :: before) := by
        rw [State.read, if_pos (by rw [hlist]; rfl)]
      rw [State.readAll, hread, State.readAll, hclose, ih _ hrest, Context.finish]

theorem finish_readAll_inLeaf (context : Context) (blocks : List Block) (leaf : Leaf)
    (opening : Token) (body : Option Token)
    (h : closers.map Token.kind =
      (leaf.container :: context.containers).map Container.closing) :
    ((State.inLeaf context blocks leaf opening body).readAll closers).finish =
      context.finish (leaf.block opening body :: blocks) := by
  obtain ⟨t, rest, rfl, hkind, hrest⟩ := List.map_eq_cons_iff.mp h
  have hclose : t.kind = leaf.closing := by
    rw [hkind]
    cases leaf <;> rfl
  rw [State.readAll, State.read, if_pos hclose]
  exact finish_readAll_atBlock context _ hrest

theorem finish_readAll_inList (context : Context) (blocks : List Block) (opening : Token)
    (ordered : Bool) (items : List Item)
    (h : closers.map Token.kind =
      (.list ordered :: context.containers).map Container.closing) :
    ((State.inList context blocks opening ordered items).readAll closers).finish =
      context.finish (.list opening ordered items.reverse :: blocks) := by
  obtain ⟨t, rest, rfl, hkind, hrest⟩ := List.map_eq_cons_iff.mp h
  have hclose : t.kind = .listClose ordered := hkind
  rw [State.readAll, State.read, if_pos hclose]
  exact finish_readAll_atBlock context _ hrest

/-- The parts of a table with the ends of its open row and its open head, or with one of them. The
row that is ended has a cell. -/
inductive Ended (parts : List (TablePart (Option Token))) :
    List (TablePart (Option Token)) → Prop where
  | refl : Ended parts parts
  | head {ended} (h : Ended parts ended) : Ended parts (ended ++ [.headClose])
  | row {before header body} (h : Ended parts (before ++ [.cell header body])) :
      Ended parts (before ++ [.cell header body] ++ [.rowClose])

/-- The outline of an open table is read on to the end of the table. -/
theorem finish_readAll_inTable {context : Context} {stack : List Container} (blocks : List Block)
    (opening : Token) {parts found : List (TablePart (Option Token))} (hin : InTable context stack)
    (hparts : Ended parts found.reverse)
    (h : closers.map Token.kind = stack.map Container.closing) :
    ∃ ended, Ended parts ended ∧ ((State.inTable context blocks opening found).readAll
      closers).finish = context.finish (.table opening ended :: blocks) := by
  have hclose (t : Token) (rest : List Token) (found : List (TablePart (Option Token)))
      (hkind : t.kind = .tableClose)
      (hrest : rest.map Token.kind = context.containers.map Container.closing) :
      ((State.inTable context blocks opening found).readAll (t :: rest)).finish =
        context.finish (.table opening found.reverse :: blocks) := by
    rw [State.readAll, State.read, State.readTable, hkind]
    exact finish_readAll_atBlock context _ hrest
  cases hin with
  | table =>
      obtain ⟨t, rest, rfl, hkind, hrest⟩ := List.map_eq_cons_iff.mp h
      exact ⟨_, hparts, hclose t rest found hkind hrest⟩
  | head =>
      obtain ⟨u, rest, rfl, hhead, hrest⟩ := List.map_eq_cons_iff.mp h
      obtain ⟨t, rest, rfl, hkind, hrest⟩ := List.map_eq_cons_iff.mp hrest
      refine ⟨(.headClose :: found).reverse, ?_, ?_⟩
      · rw [List.reverse_cons]
        exact hparts.head
      · rw [State.readAll, State.read, State.readTable, hhead]
        exact hclose t rest (.headClose :: found) hkind hrest
  | body =>
      obtain ⟨u, rest, rfl, hbody, hrest⟩ := List.map_eq_cons_iff.mp h
      obtain ⟨t, rest, rfl, hkind, hrest⟩ := List.map_eq_cons_iff.mp hrest
      refine ⟨found.reverse, hparts, ?_⟩
      rw [State.readAll, State.read, State.readTable, hbody]
      exact hclose t rest found hkind hrest

theorem finish_readAll_inRow {context : Context} {stack : List Container} (blocks : List Block)
    (opening : Token) (parts : List (TablePart (Option Token))) (header : Bool)
    (body : Option Token) (hin : InTable context stack)
    (h : closers.map Token.kind = (.row :: stack).map Container.closing) :
    ∃ ended, Ended (.cell header body :: parts).reverse ended ∧
      ((State.inTable context blocks opening (.cell header body :: parts)).readAll
        closers).finish = context.finish (.table opening ended :: blocks) := by
  obtain ⟨t, rest, rfl, hkind, hrest⟩ := List.map_eq_cons_iff.mp h
  have hended : Ended (.cell header body :: parts).reverse
      (.rowClose :: .cell header body :: parts).reverse := by
    rw [List.reverse_cons, List.reverse_cons, List.reverse_cons]
    exact .row .refl
  rw [State.readAll, State.read, State.readTable, hkind]
  exact finish_readAll_inTable blocks opening hin hended hrest

/-- The closing tokens of all that the reader has open change nothing, or mark ends of the row and
the head of a table that is open. -/
theorem Reads.finish_readAll {last : Option TokenKind} {s : State} {stack : List Container}
    (h : Reads last s stack) (hlast : last ≠ some .rowOpen)
    (hclosers : closers.map Token.kind = stack.map Container.closing) :
    (s.readAll closers).finish = s.finish ∨
      ∃ (context : Context) (blocks : List Block) (opening : Token)
        (parts ended : List (TablePart (Option Token))),
        Ended parts ended ∧ s.finish = context.finish (.table opening parts :: blocks) ∧
          (s.readAll closers).finish = context.finish (.table opening ended :: blocks) := by
  cases h with
  | atBlock => exact .inl (finish_readAll_atBlock _ _ hclosers)
  | inLeaf => exact .inl (finish_readAll_inLeaf _ _ _ _ _ hclosers)
  | inList => exact .inl (finish_readAll_inList _ _ _ _ _ hclosers)
  | inTable _ blocks opening parts hin =>
      have hparts : Ended parts.reverse parts.reverse := .refl
      obtain ⟨ended, hended, hfinish⟩ :=
        finish_readAll_inTable blocks opening hin hparts hclosers
      exact .inr ⟨_, blocks, opening, _, ended, hended, rfl, hfinish⟩
  | atRow => exact absurd rfl hlast
  | inRow _ blocks opening parts header body hin =>
      obtain ⟨ended, hended, hfinish⟩ :=
        finish_readAll_inRow blocks opening parts header body hin hclosers
      exact .inr ⟨_, blocks, opening, _, ended, hended, rfl, hfinish⟩
  | inCell _ blocks opening parts header body hin =>
      obtain ⟨t, rest, rfl, hkind, hrest⟩ := List.map_eq_cons_iff.mp hclosers
      obtain ⟨ended, hended, hfinish⟩ :=
        finish_readAll_inRow blocks opening parts header body hin hrest
      have hclose : t.kind = .cellClose header := hkind
      rw [State.readAll, State.read, if_pos hclose]
      exact .inr ⟨_, blocks, opening, _, ended, hended, rfl, hfinish⟩

/-- The outline of tokens with the closing tokens of what they leave open is their own outline, but
for the ends of the row and the head of an open table. -/
theorem ofTokens_append_closers {tokens : List Token} {stack : List Container}
    (hopen : Token.leftOpen tokens = some stack)
    (hlast : tokens.getLast?.map Token.kind ≠ some .rowOpen)
    (hclosers : closers.map Token.kind = stack.map Container.closing) :
    ofTokens (tokens ++ closers) = ofTokens tokens ∨
      ∃ (context : Context) (blocks : List Block) (opening : Token)
        (parts ended : List (TablePart (Option Token))),
        Ended parts ended ∧ ofTokens tokens = context.finish (.table opening parts :: blocks) ∧
          ofTokens (tokens ++ closers) = context.finish (.table opening ended :: blocks) := by
  have hreads := (Reads.atBlock none .top []).readAll hopen
  rw [Option.or_none] at hreads
  rw [ofTokens, ofTokens, State.readAll_append _ _ (kind_ne_inline_of_map_eq hclosers)]
  exact hreads.finish_readAll hlast hclosers

end MarkdownAdf.Outline
