import MarkdownAdf.Proofs.Outline.Balance
import MarkdownAdf.Proofs.Outline.Nesting
import MarkdownAdf.Proofs.Outline.Walk

/-!
# Where the walk closes a container

In well-formed tokens every loop of the walk ends behind the token that closes its container, and
what it has passed is balanced. So the walk and the scan for a checkbox, which counts open items
only, agree on where an item ends.
-/

namespace MarkdownAdf.Outline.Walk

open Container

variable {tokens : List Token} {stack outer : List Container} {c : Container} {i j k : Nat}

variable (tokens) in
/-- Between two places stand balanced tokens, at least one. -/
def Passes (i j : Nat) : Prop :=
  ∃ between, tokens.drop i = between ++ tokens.drop j ∧ j = i + between.length ∧ i < j ∧
    Token.Balanced between

variable (tokens) in
/-- Between two places stand balanced tokens and then the token that closes a container. Behind it
the tokens are well-formed with the outer containers open. -/
def ClosesBefore (c : Container) (outer : List Container) (i j : Nat) : Prop :=
  ∃ inner close, tokens.drop i = inner ++ close :: tokens.drop j ∧ j = i + inner.length + 1 ∧
    close.kind = c.closing ∧ Token.Balanced inner ∧ nest outer (tokens.drop j) = some []

variable (tokens) in
/-- With a stack of containers open, the tokens from a place on close all of them. -/
def Completes (stack : List Container) (i : Nat) : Prop := nest stack (tokens.drop i) = some []

/-! ### Passing tokens -/

theorem Completes.lt (h : Completes tokens (c :: outer) i) : i < tokens.length := by
  apply Nat.lt_of_not_le
  intro hi
  rw [Completes, List.drop_of_length_le hi] at h
  cases h

/-- The token at a place may stand there, and the tokens behind it close what is then open. -/
theorem Completes.step (h : Completes tokens stack i) (hi : i < tokens.length) :
    ∃ next, Container.step stack tokens[i].kind = some next ∧ Completes tokens next (i + 1) := by
  rw [Completes, List.drop_eq_getElem_cons hi, nest_cons, Option.bind_eq_some_iff] at h
  exact h

theorem Passes.lt (h : Passes tokens i j) : i < j := by
  obtain ⟨-, -, -, hlt, -⟩ := h
  exact hlt

theorem Passes.append (h : Passes tokens i j) (h' : ClosesBefore tokens c outer j k) :
    ClosesBefore tokens c outer i k := by
  obtain ⟨between, hi, rfl, -, hbetween⟩ := h
  obtain ⟨inner, close, hj, rfl, hclose, hinner, hrest⟩ := h'
  refine ⟨between ++ inner, close, ?_, ?_, hclose, hbetween.append hinner, hrest⟩
  · rw [hi, hj, List.append_assoc]
  · rw [List.length_append]
    omega

theorem passes_token (hi : i < tokens.length) (hkind : tokens[i].itemStep = 0) :
    Passes tokens i (i + 1) :=
  ⟨[tokens[i]], List.drop_eq_getElem_cons hi, rfl, Nat.lt_succ_self i,
    Token.balanced_nil.cons hkind⟩

theorem eq_itemOpen_of_opened {kind : TokenKind} (h : opened? kind = some .item) :
    kind = .itemOpen := by
  cases kind <;> simp_all [opened?]

/-- The tokens around any other container open and close no item. -/
theorem itemStep_ends {first last : Token} (hc : c ≠ .item) (hopen : opened? first.kind = some c)
    (hclose : last.kind = c.closing) : first.itemStep = 0 ∧ last.itemStep = 0 := by
  constructor
  · apply Token.itemStep_of_ne <;> intro hkind <;> simp_all [opened?]
  · apply Token.itemStep_of_ne <;> cases c <;> simp_all [Container.closing]

/-- The tokens of a container with its opening and its closing token are balanced. -/
theorem ClosesBefore.passes (hi : i < tokens.length) (hopen : opened? tokens[i].kind = some c)
    (h : ClosesBefore tokens c outer (i + 1) j) : Passes tokens i j := by
  obtain ⟨inner, close, hinner, rfl, hclose, hbalanced, -⟩ := h
  refine ⟨tokens[i] :: (inner ++ [close]), ?_, ?_, by omega, ?_⟩
  · rw [List.drop_eq_getElem_cons hi, hinner]
    simp
  · simp
    omega
  · by_cases hitem : c = .item
    · subst hitem
      exact hbalanced.item (eq_itemOpen_of_opened hopen) hclose
    · obtain ⟨hfirst, hlast⟩ := itemStep_ends hitem hopen hclose
      exact (hbalanced.append (Token.balanced_nil.cons hlast)).cons hfirst

theorem ClosesBefore.completes (h : ClosesBefore tokens c outer i j) :
    Completes tokens outer j := by
  obtain ⟨-, -, -, -, -, -, hrest⟩ := h
  exact hrest

/-- The closing token may stand right at a place. -/
theorem closesBefore_here (hi : i < tokens.length) (hkind : tokens[i].kind = c.closing)
    (h : Completes tokens (c :: outer) i) : ClosesBefore tokens c outer i (i + 1) := by
  obtain ⟨next, hstep, hnext⟩ := h.step hi
  rw [hkind, step_closing] at hstep
  obtain rfl := Option.some.inj hstep
  exact ⟨[], tokens[i], List.drop_eq_getElem_cons hi, rfl, hkind, Token.balanced_nil, hnext⟩

/-! ### Leaves and tables -/

/-- A leaf holds inline tokens only, so the first token of another kind closes it. -/
theorem closesBefore_leaf (hc : ∀ kind, holds (some c) kind = decide (kind = .inline))
    (body : Option Token) (i : Nat) (h : Completes tokens (c :: outer) i) :
    ClosesBefore tokens c outer i (leaf tokens c.closing body i).2 := by
  fun_induction leaf with
  | case1 body i hi hclosing => exact closesBefore_here hi hclosing h
  | case2 body i hi hclosing ih =>
      obtain ⟨next, hstep, hnext⟩ := h.step hi
      rcases step_eq_some hstep with ⟨_, hstack, hkind⟩ | ⟨-, hholds, rfl⟩
      · obtain ⟨rfl, -⟩ := List.cons.inj hstack
        exact absurd hkind hclosing
      · have hkind : tokens[i].kind = .inline := by
          rw [List.head?_cons, hc] at hholds
          exact of_decide_eq_true hholds
        rw [hkind] at hnext
        have hneutral : tokens[i].itemStep = 0 :=
          Token.itemStep_of_ne (by simp [hkind]) (by simp [hkind])
        exact (passes_token hi hneutral).append (ih hnext)
  | case3 body i hi => exact absurd h.lt hi

/-- What is open inside a table around its cells. -/
def InnerTable (inside : List Container) : Prop :=
  ∀ x ∈ inside, x = .head ∨ x = .body ∨ x = .row

/-- A token of a table that neither ends it nor opens a cell opens or closes a row, the head or the
body. -/
theorem step_innerTable {inside next : List Container} {kind : TokenKind}
    (hinside : InnerTable inside) (h : Container.step (inside ++ .table :: outer) kind = some next)
    (hclose : kind ≠ .tableClose) (hcell : ∀ header, kind ≠ .cellOpen header) :
    (∃ inside', next = inside' ++ .table :: outer ∧ InnerTable inside') ∧
      kind ≠ .itemOpen ∧ kind ≠ .itemClose := by
  rcases step_eq_some h with ⟨x, hstack, hkind⟩ | ⟨-, hholds, rfl⟩
  · cases inside with
    | nil =>
        obtain ⟨rfl, -⟩ := List.cons.inj hstack
        exact absurd hkind hclose
    | cons y inside =>
        obtain ⟨rfl, rfl⟩ := List.cons.inj hstack
        rw [InnerTable, List.forall_mem_cons] at hinside
        refine ⟨⟨inside, rfl, hinside.2⟩, ?_⟩
        rcases hinside.1 with rfl | rfl | rfl <;> simp [hkind, Container.closing]
  · have hopened : kind = .headOpen ∨ kind = .other "tbody_open" ∨ kind = .rowOpen := by
      cases inside with
      | nil => simpa [holds, or_assoc] using hholds
      | cons y inside =>
          rcases hinside y List.mem_cons_self with rfl | rfl | rfl
          · exact .inr (.inr (by simpa [holds] using hholds))
          · exact .inr (.inr (by simpa [holds] using hholds))
          · have hkind : kind = .cellOpen false ∨ kind = .cellOpen true := by
              simpa [holds] using hholds
            rcases hkind with hkind | hkind
            · exact absurd hkind (hcell false)
            · exact absurd hkind (hcell true)
    rcases hopened with rfl | rfl | rfl
    · exact ⟨⟨.head :: inside, rfl, List.forall_mem_cons.mpr ⟨.inl rfl, hinside⟩⟩, by simp⟩
    · exact ⟨⟨.body :: inside, rfl, List.forall_mem_cons.mpr ⟨.inr (.inl rfl), hinside⟩⟩, by simp⟩
    · exact ⟨⟨.row :: inside, rfl, List.forall_mem_cons.mpr ⟨.inr (.inr rfl), hinside⟩⟩, by simp⟩

/-- In a table nothing but its closing token ends the loop over its parts. -/
theorem closesBefore_tableParts (parts : List (TablePart (Option Token))) (i : Nat) :
    ∀ inside, InnerTable inside → Completes tokens (inside ++ .table :: outer) i →
      ClosesBefore tokens .table outer i (tableParts tokens parts i).2 := by
  fun_induction tableParts with
  | case1 parts i hi hkind =>
      intro inside hinside h
      cases inside with
      | nil => exact closesBefore_here hi hkind h
      | cons x inside =>
          obtain ⟨next, hstep, -⟩ := h.step hi
          rw [hkind] at hstep
          rcases hinside x List.mem_cons_self with rfl | rfl | rfl <;>
            simp [Container.step, Container.closing, holds] at hstep
  | case2 parts i hi header hkind hspan found ih =>
      intro inside hinside h
      obtain ⟨next, hstep, hnext⟩ := h.step hi
      rw [hkind] at hstep
      have hopened : next = .cell header :: (inside ++ .table :: outer) := by
        rcases step_eq_some hstep with ⟨x, -, hclosing⟩ | ⟨-, -, rfl⟩
        · cases x <;> cases hclosing
        · rfl
      rw [hopened] at hnext
      have hcell : ClosesBefore tokens (.cell header) _ (i + 1) found.2 :=
        closesBefore_leaf (fun _ => rfl) none (i + 1) hnext
      have hpasses := hcell.passes hi (by rw [hkind]; rfl)
      exact hpasses.append (ih inside hinside hcell.completes)
  | case3 parts i hi hclose hcell ih =>
      intro inside hinside h
      obtain ⟨next, hstep, hnext⟩ := h.step hi
      obtain ⟨⟨inside', rfl, hinside'⟩, hneopen, hneclose⟩ :=
        step_innerTable hinside hstep hclose hcell
      have hpasses := passes_token hi (Token.itemStep_of_ne hneopen hneclose)
      exact hpasses.append (ih inside' hinside' hnext)
  | case4 parts i hi =>
      intro inside _ h
      cases inside <;> exact absurd h.lt hi

/-! ### Blocks and items -/

variable (tokens) in
/-- From a place on, the loop over the blocks of an item or a quote ends behind its closing
token. -/
def BlocksClose (i : Nat) : Prop :=
  ∀ c outer before, c = .item ∨ c = .quote → Completes tokens (c :: outer) i →
    ∃ found j, blocks tokens (some c.closing) before i = some (found, j) ∧
      ClosesBefore tokens c outer i j

variable (tokens) in
/-- From a place on, the loop over the items of a list ends behind its closing token. -/
def ItemsClose (i : Nat) : Prop :=
  ∀ ordered outer before, Completes tokens (.list ordered :: outer) i →
    ∃ found j, items tokens ordered before i = some (found, j) ∧
      ClosesBefore tokens (.list ordered) outer i j

/-- A block that starts at a place ends behind its own closing token, if it has one. -/
theorem block_passes (hi : i < tokens.length) (hblocks : BlocksClose tokens (i + 1))
    (hitems : ItemsClose tokens (i + 1)) (hstarts : startsBlock tokens[i].kind = true)
    (h : Completes tokens ((opened? tokens[i].kind).toList ++ stack) (i + 1)) :
    ∃ b j, block tokens i hi = some (b, j) ∧ Passes tokens i j ∧ Completes tokens stack j := by
  have hclosed {c : Container} {j : Nat} (hopen : opened? tokens[i].kind = some c)
      (hc : ClosesBefore tokens c stack (i + 1) j) :
      Passes tokens i j ∧ Completes tokens stack j :=
    ⟨hc.passes hi hopen, hc.completes⟩
  have hsingle (hopen : opened? tokens[i].kind = none) (hitem : tokens[i].itemStep = 0) :
      Passes tokens i (i + 1) ∧ Completes tokens stack (i + 1) := by
    rw [hopen] at h
    exact ⟨passes_token hi hitem, h⟩
  rw [block]
  cases hkind : tokens[i].kind <;> rw [hkind] at hstarts h hclosed hsingle <;> simp only
  case paragraphOpen => exact ⟨_, _, rfl, hclosed rfl (closesBefore_leaf (fun _ => rfl) none _ h)⟩
  case headingOpen => exact ⟨_, _, rfl, hclosed rfl (closesBefore_leaf (fun _ => rfl) none _ h)⟩
  case listOpen ordered =>
    obtain ⟨found, j, hfound, hc⟩ := hitems ordered stack [] h
    rw [list, hfound]
    exact ⟨_, j, rfl, hclosed rfl hc⟩
  case quoteOpen =>
    obtain ⟨children, j, hchildren, hc⟩ := hblocks .quote stack [] (.inr rfl) h
    rw [quote, show some TokenKind.quoteClose = some Container.quote.closing from rfl, hchildren]
    exact ⟨_, j, rfl, hclosed rfl hc⟩
  case tableOpen =>
    exact ⟨_, _, rfl, hclosed rfl (closesBefore_tableParts [] _ [] (List.forall_mem_nil _) h)⟩
  case fence | codeBlock | rule | inline =>
    exact ⟨_, _, rfl, hsingle rfl (Token.itemStep_of_ne (by simp [hkind]) (by simp [hkind]))⟩
  case other name =>
    have hopen : opened? (.other name) = none := by
      apply if_neg
      rintro rfl
      cases hstarts
    exact ⟨_, _, rfl, hsingle hopen (Token.itemStep_of_ne (by simp [hkind]) (by simp [hkind]))⟩
  -- the other tokens start no block
  all_goals cases hstarts

/-- The item that is opened at a place ends behind its closing token when it is no task. -/
theorem listItem_closes (hi : i < tokens.length) (hblocks : BlocksClose tokens (i + 1))
    (h : Completes tokens (.item :: outer) (i + 1)) :
    ∃ children j, listItem tokens i hi = some (children, j) ∧
      ClosesBefore tokens .item outer (i + 1) j := by
  rw [listItem]
  exact hblocks .item outer [] (.inl rfl) h

/-- A task ends there as well, since its content is one of its blocks. -/
theorem taskItem_closes (hi : i < tokens.length) (hblocks : ∀ k, i < k → BlocksClose tokens k)
    (h : Completes tokens (.item :: outer) (i + 1)) :
    ∃ children j, taskItem tokens i hi = some (children, j) ∧
      ClosesBefore tokens .item outer (i + 1) j := by
  have hempty := hblocks (i + 1) (Nat.lt_succ_self i) .item outer [] (.inl rfl) h
  have hi' : i + 1 < tokens.length := h.lt
  obtain ⟨next, hstep, hnext⟩ := h.step hi'
  rw [taskItem, dif_pos hi']
  split
  · next hkind =>
    rw [hkind] at hstep
    obtain rfl := Option.some.inj hstep
    have hleaf : ClosesBefore tokens .paragraph _ (i + 2) (span tokens .paragraphClose (i + 1)).2 :=
      closesBefore_leaf (fun _ => rfl) none (i + 2) hnext
    have hspan := lt_span tokens .paragraphClose (i + 1)
    obtain ⟨children, j, hchildren, hc⟩ := hblocks _ (Nat.lt_of_succ_lt hspan) .item outer
      [.paragraph tokens[i + 1] (span tokens .paragraphClose (i + 1)).1] (.inl rfl) hleaf.completes
    exact ⟨children, j, hchildren, (hleaf.passes hi' (by rw [hkind]; rfl)).append hc⟩
  · next hkind =>
    rw [hkind] at hstep
    obtain rfl := Option.some.inj hstep
    obtain ⟨children, j, hchildren, hc⟩ :=
      hblocks (i + 2) (by omega) .item outer [.loose tokens[i + 1]] (.inl rfl) hnext
    have hneutral := Token.itemStep_of_ne (t := tokens[i + 1]) (by simp [hkind]) (by simp [hkind])
    exact ⟨children, j, hchildren, (passes_token hi' hneutral).append hc⟩
  · exact hempty

theorem item_closes (ordered : Bool) (hi : i < tokens.length)
    (hblocks : ∀ k, i < k → BlocksClose tokens k)
    (h : Completes tokens (.item :: outer) (i + 1)) :
    ∃ found j, item tokens ordered i hi = some (found, j) ∧
      ClosesBefore tokens .item outer (i + 1) j := by
  rw [item]
  split
  · obtain ⟨children, j, hchildren, hc⟩ := taskItem_closes hi hblocks h
    exact ⟨_, j, by rw [hchildren]; rfl, hc⟩
  · obtain ⟨children, j, hchildren, hc⟩ := listItem_closes hi (hblocks _ (Nat.lt_succ_self i)) h
    exact ⟨_, j, by rw [hchildren]; rfl, hc⟩

/-- The loop over blocks ends as it should when the loops behind its place do. -/
theorem blocksClose_of_behind (hblocks : ∀ k, i < k → BlocksClose tokens k)
    (hitems : ItemsClose tokens (i + 1)) : BlocksClose tokens i := by
  intro c outer before hc h
  have hi := h.lt
  rw [blocks, dif_pos hi]
  by_cases hclosing : some c.closing = some tokens[i].kind
  · rw [if_pos hclosing]
    exact ⟨before, i + 1, rfl, closesBefore_here hi (Option.some.inj hclosing).symm h⟩
  · obtain ⟨next, hstep, hnext⟩ := h.step hi
    rcases step_eq_some hstep with ⟨_, hstack, hkind⟩ | ⟨-, hholds, rfl⟩
    · obtain ⟨rfl, -⟩ := List.cons.inj hstack
      exact absurd (congrArg some hkind.symm) hclosing
    · have hstarts : startsBlock tokens[i].kind = true := by
        rcases hc with rfl | rfl <;> exact hholds
      obtain ⟨b, j, hb, hpasses, hrest⟩ :=
        block_passes hi (hblocks _ (Nat.lt_succ_self i)) hitems hstarts hnext
      have hlt : i < j := hpasses.lt
      obtain ⟨found, l, hfound, hclosed⟩ := hblocks j hlt c outer (before ++ [b]) hc hrest
      refine ⟨found, l, ?_, hpasses.append hclosed⟩
      simp [hclosing, hb, hlt, hfound]

theorem itemsClose_of_behind (hblocks : ∀ k, i < k → BlocksClose tokens k)
    (hitems : ∀ k, i < k → ItemsClose tokens k) : ItemsClose tokens i := by
  intro ordered outer before h
  have hi := h.lt
  obtain ⟨next, hstep, hnext⟩ := h.step hi
  rw [items, dif_pos hi]
  rcases step_eq_some hstep with ⟨_, hstack, hkind⟩ | ⟨-, hholds, rfl⟩
  · obtain ⟨rfl, -⟩ := List.cons.inj hstack
    have hclose : tokens[i].kind = .listClose ordered := hkind
    rw [if_pos hclose]
    exact ⟨before, i + 1, rfl, closesBefore_here hi hkind h⟩
  · have hkind : tokens[i].kind = .itemOpen := of_decide_eq_true hholds
    have hopen : opened? tokens[i].kind = some .item := by rw [hkind]; rfl
    rw [hopen] at hnext
    obtain ⟨found, j, hfound, hitem⟩ := item_closes ordered hi hblocks hnext
    have hpasses := hitem.passes hi hopen
    have hlt : i < j := hpasses.lt
    obtain ⟨all, l, hall, hclosed⟩ :=
      hitems j hlt ordered outer (before ++ [found]) hitem.completes
    refine ⟨all, l, ?_, hpasses.append hclosed⟩
    simp [hkind, hfound, hlt, hall]

variable (tokens) in
theorem blocksClose_itemsClose (i : Nat) : BlocksClose tokens i ∧ ItemsClose tokens i := by
  induction hn : tokens.length - i using Nat.strongRecOn generalizing i with
  | ind n ih =>
      by_cases hi : i < tokens.length
      · have hbehind (k : Nat) (hk : i < k) := ih (tokens.length - k) (by omega) k rfl
        have hblocks (k : Nat) (hk : i < k) := (hbehind k hk).1
        have hitems (k : Nat) (hk : i < k) := (hbehind k hk).2
        exact ⟨blocksClose_of_behind hblocks (hitems _ (Nat.lt_succ_self i)),
          itemsClose_of_behind hblocks hitems⟩
      · exact ⟨fun _ _ _ _ h => absurd h.lt hi, fun _ _ _ h => absurd h.lt hi⟩

/-! ### Items -/

/-- In well-formed tokens the opening of an item is followed by the item and its closing token. -/
theorem completes_item (h : Token.WellFormed tokens) (hi : i < tokens.length)
    (hkind : tokens[i].kind = .itemOpen) :
    ∃ outer, Completes tokens (.item :: outer) (i + 1) := by
  rw [Token.WellFormed, Token.leftOpen, ← List.take_append_drop i tokens, nest_append,
    Option.bind_eq_some_iff] at h
  obtain ⟨stack, -, hrest⟩ := h
  have hrest : Completes tokens stack i := hrest
  obtain ⟨next, hstep, hnext⟩ := hrest.step hi
  rw [hkind] at hstep
  rcases step_eq_some hstep with ⟨c, -, hclosing⟩ | ⟨-, -, rfl⟩
  · cases c <;> cases hclosing
  · exact ⟨stack, hnext⟩

variable (tokens) in
/-- A call for the item that is opened at a place ends at another one, and the reader reads the same
children between them. -/
def EndsItem (call : Option (List Block × Nat)) (i j : Nat) : Prop :=
  ∃ children, call = some (children, j) ∧ Children tokens .itemClose (i + 1) children j

theorem endsItem_of_ends {call : Option (List Block × Nat)} {children : List Block}
    (h : Ends (i + 1) call (Children tokens .itemClose (i + 1)))
    (hcall : call = some (children, j)) : EndsItem tokens call i j := by
  obtain ⟨found, k, hfound, -, hread⟩ := h
  obtain ⟨rfl, rfl⟩ := Prod.mk.inj (Option.some.inj (hcall.symm.trans hfound))
  exact ⟨children, hfound, hread⟩

/-- In well-formed tokens both calls for an item end behind the closing token that goes with its
opening. -/
theorem items_close (h : Token.WellFormed tokens) (hi : i < tokens.length)
    (hkind : tokens[i].kind = .itemOpen) :
    ∃ inner close after, tokens.drop (i + 1) = inner ++ close :: after ∧
      close.kind = .itemClose ∧ Token.Balanced inner ∧
      EndsItem tokens (listItem tokens i hi) i (i + 1 + inner.length + 1) ∧
      EndsItem tokens (taskItem tokens i hi) i (i + 1 + inner.length + 1) := by
  obtain ⟨outer, hitem⟩ := completes_item h hi hkind
  obtain ⟨children, j, hlist, inner, close, hinner, rfl, hclose, hbalanced, -⟩ :=
    listItem_closes hi (blocksClose_itemsClose tokens (i + 1)).1 hitem
  obtain ⟨children', j', htask, inner', close', hinner', rfl, hclose', hbalanced', -⟩ :=
    taskItem_closes hi (fun k _ => (blocksClose_itemsClose tokens k).1) hitem
  obtain rfl : inner = inner' :=
    hbalanced.eq_of_close hbalanced' hclose hclose' (hinner.symm.trans hinner')
  have hlistEnds := listItem_ends hi (blocksAt_itemsAt tokens (i + 1)).1
  have htaskEnds := taskItem_ends hi fun k _ => (blocksAt_itemsAt tokens k).1
  exact ⟨inner, close, _, hinner, hclose, hbalanced, endsItem_of_ends hlistEnds hlist,
    endsItem_of_ends htaskEnds htask⟩

/-- The scan that finds tasks sees just the item: its opening token and the inline tokens that
belong to no item below. What stands in an item below may be replaced, and so may what stands behind
the closing token, and in well-formed tokens that is the token behind which both calls for an item
end. -/
theorem opensTask_ownTokens (tokens : List Token) (i : Nat) (hi : i < tokens.length)
    (hkind : tokens[i].kind = .itemOpen) :
    (tokens[i].opensTask (tokens.drop (i + 1)) = true ↔
      (∃ s, tokens[i].attrs.text? "class" = some s ∧ Token.taskClass ∈ Text.words s) ∨
      ∃ before own after, tokens.drop (i + 1) = before ++ own :: after ∧ Token.Balanced before ∧
        own.kind = .inline ∧ ∃ c ∈ own.inlines, c.isCheckbox = true) ∧
    (∀ before nested inner inner' behind,
      tokens.drop (i + 1) = before ++ nested :: (inner ++ behind) → nested.kind = .itemOpen →
      (Token.Balanced inner ∨ Token.Within 0 inner ∧ behind = []) → Token.Balanced inner' →
      tokens[i].opensTask (before ++ nested :: (inner' ++ behind)) =
        tokens[i].opensTask (tokens.drop (i + 1))) ∧
    (∀ inner close after after',
      tokens.drop (i + 1) = inner ++ close :: after → Token.Balanced inner →
      close.kind = .itemClose →
      tokens[i].opensTask (inner ++ close :: after') =
        tokens[i].opensTask (tokens.drop (i + 1))) ∧
    (Token.WellFormed tokens →
      ∃ inner close after, tokens.drop (i + 1) = inner ++ close :: after ∧
        close.kind = .itemClose ∧ Token.Balanced inner ∧
        EndsItem tokens (listItem tokens i hi) i (i + 1 + inner.length + 1) ∧
        EndsItem tokens (taskItem tokens i hi) i (i + 1 + inner.length + 1)) := by
  refine ⟨?_, ?_, ?_, fun h => items_close h hi hkind⟩
  · rw [Token.opensTask_iff, Token.hasTaskClass_iff, Token.ownsCheckbox_zero_iff]
  · intro before nested inner inner' behind hsplit hnested hinner hinner'
    rw [hsplit]
    exact Token.opensTask_congr (Token.ownsCheckbox_replace hnested hinner hinner')
  · intro inner close after after' hsplit hinner hclose
    rw [hsplit]
    apply Token.opensTask_congr
    rw [Token.ownsCheckbox_closed hinner hclose, Token.ownsCheckbox_closed hinner hclose]

/-- A task with a plain item below it. -/
def taskAroundItem : BlockTree :=
  let ends : Delimiters := ⟨{ kind := .inline }, { kind := .inline }⟩
  let leaf (inlines : List Inline) : Option Token :=
    some { kind := .inline, children := some inlines }
  let checkbox : Inline := .markup "<input type='checkbox'>"
  .list ends false
    [⟨ends, [.list ends false [⟨ends, [.paragraph ends (leaf [.text "pack"])]⟩],
      .paragraph ends (leaf [checkbox, .text " call"])]⟩]

/-- The task is opened by the second token and closed by the last but one. Its checkbox stands
behind the item below. -/
theorem opensTask_taskAroundItem :
    let tokens := BlockTree.flattenAll [taskAroundItem]
    ∃ hi : 1 < tokens.length, tokens[1].kind = .itemOpen ∧ Token.WellFormed tokens ∧
      tokens[1].opensTask (tokens.drop 2) = true ∧
      Token.Balanced ((tokens.drop 2).take 10) ∧
      EndsItem tokens (listItem tokens 1 hi) 1 13 ∧
      EndsItem tokens (taskItem tokens 1 hi) 1 13 := by
  intro tokens
  have hi : 1 < tokens.length := by decide
  have hwell : Token.WellFormed tokens := Container.wellFormed_flattenAll [taskAroundItem]
  have hinner : Token.Balanced ((tokens.drop 2).take 10) := by decide
  have hbefore : Token.Balanced ((tokens.drop 2).take 8) := by decide
  obtain ⟨hscan, -, -, hclose⟩ := opensTask_ownTokens tokens 1 hi rfl
  obtain ⟨found, close, after, hsplit, hkind, hfound, hlist, htask⟩ := hclose hwell
  have hend : tokens[12].kind = .itemClose := rfl
  obtain rfl : (tokens.drop 2).take 10 = found := hinner.eq_of_close hfound hend hkind hsplit
  refine ⟨hi, rfl, hwell, hscan.mpr (.inr ?_), hinner, hlist, htask⟩
  exact ⟨_, _, _, (List.take_append_drop 8 (tokens.drop 2)).symm, hbefore, rfl, _,
    List.mem_cons_self, by decide⟩

end MarkdownAdf.Outline.Walk
