import MarkdownAdf.Proofs.Outline.Tree

/-!
# Nesting of tokens

The containers that a row of tokens leaves open, the innermost first. A row of tokens is well-formed
when every token stands where it may stand and nothing is left open. The tokens of trees are
well-formed.
-/

namespace MarkdownAdf

/-- What stands between an opening token and its closing token. -/
inductive Container where
  | paragraph
  | heading
  | list (ordered : Bool)
  | item
  | quote
  | table
  | head
  | body
  | row
  | cell (header : Bool)
  deriving DecidableEq, Repr

namespace Container

def closing : Container → TokenKind
  | paragraph => .paragraphClose
  | heading => .headingClose
  | list ordered => .listClose ordered
  | item => .itemClose
  | quote => .quoteClose
  | table => .tableClose
  | head => .headClose
  | body => .other "tbody_close"
  | row => .rowClose
  | cell header => .cellClose header

/-- The container that a token opens. -/
def opened? : TokenKind → Option Container
  | .paragraphOpen => some paragraph
  | .headingOpen => some heading
  | .listOpen ordered => some (list ordered)
  | .itemOpen => some item
  | .quoteOpen => some quote
  | .tableOpen => some table
  | .headOpen => some head
  | .rowOpen => some row
  | .cellOpen header => some (cell header)
  | .other name => if name = "tbody_open" then some body else none
  | _ => none

/-- Whether a token can be a block or the opening token of one. -/
def startsBlock : TokenKind → Bool
  | .paragraphOpen | .headingOpen | .listOpen _ | .quoteOpen | .tableOpen => true
  | .fence | .codeBlock | .rule | .inline => true
  | .other name => name ≠ "tbody_open" && name ≠ "tbody_close"
  | _ => false

/-- Whether a token may stand in a container or, without one, at the top. The closing token of the
container is not meant. -/
def holds : Option Container → TokenKind → Bool
  | none, kind | some item, kind | some quote, kind => startsBlock kind
  | some (list _), kind => kind = .itemOpen
  | some table, kind => kind = .headOpen || kind = .other "tbody_open" || kind = .rowOpen
  | some head, kind | some body, kind => kind = .rowOpen
  | some row, kind => kind = .cellOpen false || kind = .cellOpen true
  | some paragraph, kind | some heading, kind | some (cell _), kind => kind = .inline

/-- The containers that are open behind one more token, if the token may stand there. -/
def step (stack : List Container) (kind : TokenKind) : Option (List Container) :=
  if stack.head?.map closing = some kind then some stack.tail
  else if holds stack.head? kind then some ((opened? kind).toList ++ stack)
  else none

/-- The containers that are open behind a row of tokens. -/
def nest (stack : List Container) (tokens : List Token) : Option (List Container) :=
  tokens.foldlM (fun stack t => step stack t.kind) stack

end Container

/-- The containers that a row of tokens leaves open, the innermost first. -/
def Token.leftOpen (tokens : List Token) : Option (List Container) := Container.nest [] tokens

/-- Every token stands where it may stand, and nothing is left open. -/
def Token.WellFormed (tokens : List Token) : Prop := leftOpen tokens = some []

namespace Container

theorem nest_cons (stack : List Container) (t : Token) (rest : List Token) :
    nest stack (t :: rest) = (step stack t.kind).bind (nest · rest) :=
  List.foldlM_cons

theorem nest_append (stack : List Container) (tokens rest : List Token) :
    nest stack (tokens ++ rest) = (nest stack tokens).bind (nest · rest) :=
  List.foldlM_append

/-- What a token that may stand somewhere does there. -/
theorem step_eq_some {stack stack' : List Container} {kind : TokenKind}
    (h : step stack kind = some stack') :
    (∃ c, stack = c :: stack' ∧ kind = c.closing) ∨
      stack.head?.map closing ≠ some kind ∧ holds stack.head? kind = true ∧
        stack' = (opened? kind).toList ++ stack := by
  rw [step] at h
  by_cases hclosing : stack.head?.map closing = some kind
  · rw [if_pos hclosing] at h
    cases stack with
    | nil => cases hclosing
    | cons c outer => exact .inl ⟨c, by simpa using h, (Option.some.inj hclosing).symm⟩
  · rw [if_neg hclosing] at h
    by_cases hholds : holds stack.head? kind = true
    · rw [if_pos hholds] at h
      exact .inr ⟨hclosing, hholds, (Option.some.inj h).symm⟩
    · rw [if_neg hholds] at h
      cases h

theorem step_closing (c : Container) (stack : List Container) :
    step (c :: stack) c.closing = some stack :=
  if_pos rfl

/-- Every prefix of well-formed tokens leaves some containers open. -/
theorem exists_leftOpen_of_prefix {before tokens : List Token} (h : Token.WellFormed tokens)
    (hbefore : before <+: tokens) : ∃ stack, Token.leftOpen before = some stack := by
  obtain ⟨rest, rfl⟩ := hbefore
  rw [Token.WellFormed, Token.leftOpen, nest_append, Option.bind_eq_some_iff] at h
  obtain ⟨stack, hstack, -⟩ := h
  exact ⟨stack, hstack⟩

theorem nest_closers {stack : List Container} {closers : List Token}
    (h : closers.map Token.kind = stack.map closing) : nest stack closers = some [] := by
  induction stack generalizing closers with
  | nil =>
      obtain rfl := List.map_eq_nil_iff.mp h
      rfl
  | cons c stack ih =>
      obtain ⟨t, rest, rfl, hkind, hrest⟩ := List.map_eq_cons_iff.mp h
      rw [nest_cons, hkind, step_closing, Option.bind_some, ih hrest]

/-- The closing tokens of what tokens leave open complete them. -/
theorem wellFormed_append_closers {tokens closers : List Token} {stack : List Container}
    (hopen : Token.leftOpen tokens = some stack)
    (h : closers.map Token.kind = stack.map closing) : Token.WellFormed (tokens ++ closers) := by
  rw [Token.leftOpen] at hopen
  rw [Token.WellFormed, Token.leftOpen, nest_append, hopen, Option.bind_some, nest_closers h]

/-! ### Trees

A written tree leaves open what was open before it. -/

variable {stack : List Container}

/-- The places where blocks stand. -/
def OfBlocks (stack : List Container) : Prop :=
  stack.head? = none ∨ stack.head? = some item ∨ stack.head? = some quote

theorem OfBlocks.step_eq {kind : TokenKind} (h : OfBlocks stack) (hkind : startsBlock kind = true) :
    step stack kind = some ((opened? kind).toList ++ stack) := by
  have hclosing : stack.head?.map closing ≠ some kind := by
    rcases h with hstack | hstack | hstack <;> rw [hstack] <;> rintro ⟨⟩ <;> cases hkind
  have hholds : holds stack.head? kind = true := by
    rcases h with hstack | hstack | hstack <;> rw [hstack] <;> exact hkind
  rw [step, if_neg hclosing, if_pos hholds]

theorem nest_around (d : Delimiters) (c : Container) {first : TokenKind} {inner : List Token}
    (hfirst : step stack first = some (c :: stack))
    (hinner : ∀ rest, nest (c :: stack) (inner ++ rest) = nest (c :: stack) rest)
    (rest : List Token) :
    nest stack (d.around first c.closing inner ++ rest) = nest stack rest := by
  have hlast : step (c :: stack) (d.closing.withKind c.closing).kind = some stack :=
    step_closing c stack
  rw [Delimiters.around_append, nest_cons, show (d.opening.withKind first).kind = first from rfl,
    hfirst, Option.bind_some, hinner, nest_cons, hlast, Option.bind_some]

theorem nest_ofBody (hinline : step stack .inline = some stack) (body : Option Token)
    (rest : List Token) : nest stack (Token.ofBody body ++ rest) = nest stack rest := by
  cases body with
  | none => rfl
  | some t =>
      have hkind : (t.withKind .inline).kind = .inline := rfl
      rw [Token.ofBody, Option.map_some, Option.toList_some, List.singleton_append, nest_cons,
        hkind, hinline, Option.bind_some]

theorem nest_flatMap {α : Type} (write : α → List Token)
    (hwrite : ∀ a rest, nest stack (write a ++ rest) = nest stack rest) (as : List α)
    (rest : List Token) : nest stack (as.flatMap write ++ rest) = nest stack rest := by
  induction as with
  | nil => rfl
  | cons a as ih => rw [List.flatMap_cons, List.append_assoc, hwrite, ih]

theorem nest_cell (c : CellTree) (rest : List Token) :
    nest (row :: stack) (c.flatten ++ rest) = nest (row :: stack) rest := by
  refine nest_around c.ends (cell c.header) ?_ (nest_ofBody rfl c.body) rest
  cases c.header <;> rfl

theorem nest_row (hrow : step stack .rowOpen = some (row :: stack)) (r : RowTree)
    (rest : List Token) : nest stack (r.flatten ++ rest) = nest stack rest :=
  nest_around r.ends row hrow (nest_flatMap _ nest_cell r.cells) rest

theorem nest_rows (hrow : step stack .rowOpen = some (row :: stack)) (x : SectionTree)
    (rest : List Token) : nest stack (x.flattenRows ++ rest) = nest stack rest :=
  nest_flatMap _ (nest_row hrow) x.rows rest

theorem nest_sections (x : SectionTree) (y : Option SectionTree) (rest : List Token) :
    nest (table :: stack) ((x.flattenHead ++ (y.map SectionTree.flattenBody).getD []) ++ rest) =
      nest (table :: stack) rest := by
  rw [List.append_assoc, SectionTree.flattenHead]
  refine (nest_around x.ends head rfl (nest_rows rfl x) _).trans ?_
  cases y with
  | none => rfl
  | some y => exact nest_around y.ends body rfl (nest_rows rfl y) rest

mutual

theorem nest_flatten : ∀ (b : BlockTree) {stack : List Container}, OfBlocks stack →
    ∀ rest, nest stack (b.flatten ++ rest) = nest stack rest
  | .paragraph ends content, _, h, rest =>
    nest_around ends paragraph (h.step_eq rfl) (nest_ofBody rfl content) rest
  | .heading ends content, _, h, rest =>
    nest_around ends heading (h.step_eq rfl) (nest_ofBody rfl content) rest
  | .loose t, _, h, rest => nest_ofBody (h.step_eq rfl) (some t) rest
  | .fence t, _, h, rest | .codeBlock t, _, h, rest | .rule t, _, h, rest => by
    rw [BlockTree.flatten, List.singleton_append, nest_cons, h.step_eq rfl]
    rfl
  | .quote ends children, _, h, rest =>
    nest_around ends quote (h.step_eq rfl) (nest_flattenAll children (.inr (.inr rfl))) rest
  | .list ends ordered items, _, h, rest =>
    nest_around ends (list ordered) (h.step_eq rfl) (nest_flattenItems ordered items) rest
  | .table ends x y, _, h, rest =>
    nest_around ends table (h.step_eq rfl) (nest_sections x y) rest

theorem nest_flattenAll : ∀ (bs : List BlockTree) {stack : List Container}, OfBlocks stack →
    ∀ rest, nest stack (BlockTree.flattenAll bs ++ rest) = nest stack rest
  | [], _, _, _ => rfl
  | b :: bs, _, h, rest => by
    rw [BlockTree.flattenAll, List.append_assoc, nest_flatten b h, nest_flattenAll bs h]

theorem nest_flattenItem (ordered : Bool) : ∀ (i : ItemTree) {stack : List Container} rest,
    nest (list ordered :: stack) (BlockTree.flattenItem i ++ rest) =
      nest (list ordered :: stack) rest
  | ⟨ends, children⟩, _, rest => by
    rw [BlockTree.flattenItem]
    exact nest_around ends item rfl (nest_flattenAll children (.inr (.inl rfl))) rest

theorem nest_flattenItems (ordered : Bool) : ∀ (is : List ItemTree) {stack : List Container} rest,
    nest (list ordered :: stack) (BlockTree.flattenItems is ++ rest) =
      nest (list ordered :: stack) rest
  | [], _, _ => rfl
  | i :: is, _, rest => by
    rw [BlockTree.flattenItems, List.append_assoc, nest_flattenItem ordered i,
      nest_flattenItems ordered is]

end

/-- The tokens of trees are well-formed. -/
theorem wellFormed_flattenAll (trees : List BlockTree) :
    Token.WellFormed (BlockTree.flattenAll trees) := by
  have htop : OfBlocks [] := .inl rfl
  have hnest := nest_flattenAll trees htop []
  rwa [List.append_nil] at hnest

end Container

end MarkdownAdf
