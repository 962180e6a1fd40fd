import MarkdownAdf.Outline.Reader

/-!
# Walking through the tokens

The outline of a row of tokens can be found by a walk with a cursor: a container is read by a call
from the place of its opening token on, which gives what it read and the place to go on from. Places
may lie behind the last token, and a token is looked up only at a place that is known to be within.
A loop whose cursor did not move forward would never end, and it is one without a result here. It is
shown that no loop is such a one, however the tokens are mixed, that every call ends behind the
place where it starts, and that the walk finds what the reader finds.
-/

namespace MarkdownAdf.Outline.Walk

variable (tokens : List Token)

/-! ### Leaves -/

/-- Looks for the end of a leaf; `body` is the inline token found so far. -/
def leaf (closing : TokenKind) (body : Option Token) (i : Nat) : Option Token × Nat :=
  if h : i < tokens.length then
    if tokens[i].kind = closing then (body, i + 1)
    else leaf closing (bodyWith body tokens[i]) (i + 1)
  else (body, i)
  termination_by tokens.length - i

/-- The body of the leaf that is opened at a place. -/
def span (closing : TokenKind) (i : Nat) : Option Token × Nat := leaf tokens closing none (i + 1)

theorem le_leaf (closing : TokenKind) (body : Option Token) (i : Nat) :
    i ≤ (leaf tokens closing body i).2 := by
  fun_induction leaf with
  | case1 body i hi hclosing => exact Nat.le_succ i
  | case2 body i hi hclosing ih => exact Nat.le_of_succ_le ih
  | case3 body i hi => exact Nat.le_refl i

theorem lt_span (closing : TokenKind) (i : Nat) : i < (span tokens closing i).2 :=
  le_leaf tokens closing none (i + 1)

/-! ### Tables, blocks and items -/

def tableParts (parts : List (TablePart (Option Token))) (i : Nat) :
    List (TablePart (Option Token)) × Nat :=
  if h : i < tokens.length then
    match tokens[i].kind with
    | .tableClose => (parts, i + 1)
    | .cellOpen header =>
      have := lt_span tokens (.cellClose header) i
      let found := span tokens (.cellClose header) i
      tableParts (parts ++ [.cell header found.1]) found.2
    | kind => tableParts (parts ++ (tablePart? kind).toList) (i + 1)
  else (parts, i + 1)
  termination_by tokens.length - i

/-- The parts of the table that is opened at a place. -/
def table (i : Nat) : List (TablePart (Option Token)) × Nat := tableParts tokens [] (i + 1)

mutual

/-- Reads blocks up to a closing token or to the end of all tokens. -/
def blocks (closing : Option TokenKind) (before : List Block) (i : Nat) :
    Option (List Block × Nat) :=
  if h : i < tokens.length then
    if closing = some tokens[i].kind then some (before, i + 1)
    else do
      let (b, j) ← block i h
      if i < j then blocks closing (before ++ [b]) j else none
  else some (before, i)
  termination_by (tokens.length - i, 3)

/-- The block that starts at a place. -/
def block (i : Nat) (h : i < tokens.length) : Option (Block × Nat) :=
  match tokens[i].kind with
  | .paragraphOpen =>
    let found := span tokens .paragraphClose i
    some (.paragraph tokens[i] found.1, found.2)
  | .headingOpen =>
    let found := span tokens .headingClose i
    some (.heading tokens[i] found.1, found.2)
  | .listOpen ordered => do
    let (found, j) ← list ordered i h
    return (.list tokens[i] ordered found, j)
  | .quoteOpen => do
    let (children, j) ← quote i h
    return (.quote tokens[i] children, j)
  | .fence | .codeBlock => some (.code tokens[i], i + 1)
  | .tableOpen =>
    let found := table tokens i
    some (.table tokens[i] found.1, found.2)
  | .rule => some (.rule tokens[i], i + 1)
  | .inline => some (.loose tokens[i], i + 1)
  | _ => some (.stray tokens[i], i + 1)
  termination_by (tokens.length - i, 2)

/-- The children of the quote that is opened at a place. -/
def quote (i : Nat) (_ : i < tokens.length) : Option (List Block × Nat) :=
  blocks (some .quoteClose) [] (i + 1)
  termination_by (tokens.length - i, 1)

/-- The items of the list that is opened at a place. -/
def list (ordered : Bool) (i : Nat) (_ : i < tokens.length) : Option (List Item × Nat) :=
  items ordered [] (i + 1)
  termination_by (tokens.length - i, 1)

def items (ordered : Bool) (before : List Item) (i : Nat) : Option (List Item × Nat) :=
  if h : i < tokens.length then
    if tokens[i].kind = .listClose ordered then some (before, i + 1)
    else if tokens[i].kind = .itemOpen then do
      let (found, j) ← item ordered i h
      if i < j then items ordered (before ++ [found]) j else none
    else items ordered before (i + 1)
  else some (before, i + 1)
  termination_by (tokens.length - i, 3)

def item (ordered : Bool) (i : Nat) (h : i < tokens.length) : Option (Item × Nat) :=
  if !ordered && tokens[i].opensTask (tokens.drop (i + 1)) then do
    let (children, j) ← taskItem i h
    return (⟨tokens[i], true, children⟩, j)
  else do
    let (children, j) ← listItem i h
    return (⟨tokens[i], false, children⟩, j)
  termination_by (tokens.length - i, 2)

/-- The children of the item that is opened at a place and is no task. -/
def listItem (i : Nat) (_ : i < tokens.length) : Option (List Block × Nat) :=
  blocks (some .itemClose) [] (i + 1)
  termination_by (tokens.length - i, 1)

/-- The children of the task that is opened at a place. Its content is read first, when it stands
next to the opening token. -/
def taskItem (i : Nat) (_ : i < tokens.length) : Option (List Block × Nat) :=
  if hnext : i + 1 < tokens.length then
    match tokens[i + 1].kind with
    | .paragraphOpen =>
      have := lt_span tokens .paragraphClose (i + 1)
      let found := span tokens .paragraphClose (i + 1)
      blocks (some .itemClose) [.paragraph tokens[i + 1] found.1] found.2
    | .inline => blocks (some .itemClose) [.loose tokens[i + 1]] (i + 2)
    | _ => blocks (some .itemClose) [] (i + 1)
  else blocks (some .itemClose) [] (i + 1)
  termination_by (tokens.length - i, 1)

end

/-! ### Calls that end -/

section Ends

variable {α β : Type} {m n : Nat} {P : α → Nat → Prop} {Q : β → Nat → Prop}

/-- A call has a result, and the place to go on from is not before a given one. -/
def Ends (n : Nat) (x : Option (α × Nat)) (P : α → Nat → Prop) : Prop :=
  ∃ a j, x = some (a, j) ∧ n ≤ j ∧ P a j

theorem Ends.some {a : α} {j : Nat} (hn : n ≤ j) (h : P a j) : Ends n (some (a, j)) P :=
  ⟨a, j, rfl, hn, h⟩

theorem Ends.bind {x : Option (α × Nat)} {f : α × Nat → Option (β × Nat)} (hx : Ends n x P)
    (hf : ∀ a j, n ≤ j → P a j → Ends m (f (a, j)) Q) : Ends m (x >>= f) Q := by
  obtain ⟨a, j, rfl, hj, ha⟩ := hx
  exact hf a j hj ha

theorem Ends.mono {x : Option (α × Nat)} {R : α → Nat → Prop} (h : Ends n x P) (hm : m ≤ n)
    (hR : ∀ a j, n ≤ j → P a j → R a j) : Ends m x R := by
  obtain ⟨a, j, hx, hj, ha⟩ := h
  exact ⟨a, j, hx, Nat.le_trans hm hj, hR a j hj ha⟩

end Ends

/-- Where a loop that starts at a place has to get to: behind the place, unless that is the end of
the tokens. -/
def next (i : Nat) : Nat := if i < tokens.length then i + 1 else i

variable {tokens} {i j k : Nat} {s s' s'' : State}

theorem next_eq (h : i < tokens.length) : next tokens i = i + 1 := if_pos h

theorem next_eq_self (h : ¬i < tokens.length) : next tokens i = i := if_neg h

theorem le_next (i : Nat) : i ≤ next tokens i := by
  rw [next]
  split <;> omega

/-! ### Reading on -/

variable (tokens) in
/-- The reader finds the same outline from two places in two states. -/
def Joins (s : State) (i : Nat) (s' : State) (j : Nat) : Prop :=
  (s.readAll (tokens.drop i)).finish = (s'.readAll (tokens.drop j)).finish

theorem Joins.trans (h : Joins tokens s i s' j) (h' : Joins tokens s' j s'' k) :
    Joins tokens s i s'' k :=
  Eq.trans h h'

theorem joins_read (s : State) (h : i < tokens.length) :
    Joins tokens s i (s.read tokens[i] (tokens.drop (i + 1))) (i + 1) := by
  rw [Joins, List.drop_eq_getElem_cons h]
  rfl

/-- Behind the last token only what is open counts. -/
theorem joins_of_finish (h : ¬i < tokens.length) (hj : i ≤ j) (hs : s.finish = s'.finish) :
    Joins tokens s i s' j := by
  rw [Joins, List.drop_of_length_le (by omega), List.drop_of_length_le (by omega)]
  exact hs

/-- States in a leaf, with the body found so far, and behind it. -/
structure Closes (closing : TokenKind) (opened closed : Option Token → State) : Prop where
  read : ∀ body t rest, (opened body).read t rest =
    if t.kind = closing then closed body else opened (bodyWith body t)
  finish : ∀ body, (opened body).finish = (closed body).finish

theorem joins_leaf {closing : TokenKind} {opened closed : Option Token → State}
    (h : Closes closing opened closed) (body : Option Token) (i : Nat) :
    Joins tokens (opened body) i (closed (leaf tokens closing body i).1)
      (leaf tokens closing body i).2 := by
  fun_induction leaf with
  | case1 body i hi hclosing =>
      have hread := joins_read (opened body) hi
      rwa [h.read, if_pos hclosing] at hread
  | case2 body i hi hclosing ih =>
      have hread := joins_read (opened body) hi
      rw [h.read, if_neg hclosing] at hread
      exact hread.trans ih
  | case3 body i hi => exact joins_of_finish hi (Nat.le_refl i) (h.finish body)

theorem joins_span {closing : TokenKind} {opened closed : Option Token → State}
    (h : Closes closing opened closed) (i : Nat) :
    Joins tokens (opened none) (i + 1) (closed (span tokens closing i).1)
      (span tokens closing i).2 :=
  joins_leaf h none (i + 1)

theorem closes_leaf (context : Context) (before : List Block) (l : Leaf) (opening : Token) :
    Closes l.closing (.inLeaf context before l opening)
      fun body => .atBlock context (l.block opening body :: before) :=
  ⟨fun _ _ _ => rfl, fun _ => rfl⟩

theorem closes_cell (context : Context) (before : List Block) (opening : Token)
    (parts : List (TablePart (Option Token))) (header : Bool) :
    Closes (.cellClose header) (.inCell context before opening parts header)
      fun body => .inTable context before opening (.cell header body :: parts) :=
  ⟨fun _ _ _ => rfl, fun _ => rfl⟩

theorem lt_tableParts (parts : List (TablePart (Option Token))) (i : Nat) :
    i < (tableParts tokens parts i).2 := by
  fun_induction tableParts with
  | case1 parts i hi hkind => exact Nat.lt_succ_self i
  | case2 parts i hi header hkind hspan found ih => exact Nat.lt_trans hspan ih
  | case3 parts i hi hclose hcell ih => exact Nat.lt_of_succ_lt ih
  | case4 parts i hi => exact Nat.lt_succ_self i

theorem joins_tableParts (context : Context) (before : List Block) (opening : Token)
    (parts : List (TablePart (Option Token))) (i : Nat) :
    Joins tokens (.inTable context before opening parts.reverse) i
      (.atBlock context (.table opening (tableParts tokens parts i).1 :: before))
      (tableParts tokens parts i).2 := by
  fun_induction tableParts with
  | case1 parts i hi hkind =>
      have hread := joins_read (.inTable context before opening parts.reverse) hi
      rw [State.read, State.readTable, hkind] at hread
      simpa using hread
  | case2 parts i hi header hkind hspan found ih =>
      have hread := joins_read (.inTable context before opening parts.reverse) hi
      rw [State.read, State.readTable, hkind] at hread
      rw [List.reverse_append] at ih
      exact hread.trans ((joins_span (closes_cell ..) i).trans ih)
  | case3 parts i hi hclose hcell ih =>
      have hread := joins_read (.inTable context before opening parts.reverse) hi
      rw [State.read, State.readTable] at hread
      split at hread
      · next heq => exact absurd heq hclose
      · next heq => exact absurd heq (hcell _)
      · cases hpart : tablePart? (α := Option Token) tokens[i].kind with
        | none =>
            simp only [hpart, Option.toList_none, List.append_nil] at hread ih ⊢
            exact hread.trans ih
        | some part =>
            simp only [hpart, Option.toList_some, List.reverse_append] at hread ih ⊢
            exact hread.trans ih
  | case4 parts i hi => exact joins_of_finish hi (Nat.le_succ i) (by simp [State.finish])

/-! ### Blocks and items -/

theorem joins_readBlock {context : Context} (blocks : List Block) (h : i < tokens.length)
    (hclosing : context.closing ≠ some tokens[i].kind) :
    Joins tokens (.atBlock context blocks) i (.readBlock context blocks tokens[i]) (i + 1) := by
  have hread := joins_read (.atBlock context blocks) h
  rwa [State.read, if_neg hclosing] at hread

theorem finish_leave (context : Context) (blocks : List Block) :
    (context.leave blocks).finish = context.finish blocks := by
  cases context <;> rfl

variable (tokens) in
/-- From a place on, the loop over blocks ends with the blocks that the reader finds, and when it
looks for no closing token it goes through all that is left. -/
def BlocksAt (i : Nat) : Prop :=
  ∀ closing before, Ends (next tokens i) (blocks tokens closing before i) fun found j =>
    (∀ context : Context, context.closing = closing →
      Joins tokens (.atBlock context before.reverse) i (context.leave found.reverse) j) ∧
    (closing = none → tokens.length ≤ j)

variable (tokens) in
/-- From a place on, the loop over items ends with the items that the reader finds. -/
def ItemsAt (i : Nat) : Prop :=
  ∀ ordered before, Ends (i + 1) (items tokens ordered before i) fun found j =>
    ∀ context blocks opening,
      Joins tokens (.inList context blocks opening ordered before.reverse) i
        (.atBlock context (.list opening ordered found :: blocks)) j

variable (tokens) in
/-- Between two places the reader reads the children of a container. -/
def Children (closing : TokenKind) (i : Nat) (children : List Block) (j : Nat) : Prop :=
  ∀ context : Context, context.closing = some closing →
    Joins tokens (.atBlock context []) i (context.leave children.reverse) j

/-- The loop over blocks reads all children of a container that is opened before its place. -/
theorem BlocksAt.children (h : BlocksAt tokens (i + 1)) (closing : TokenKind) :
    Ends (i + 1) (blocks tokens (some closing) [] (i + 1)) (Children tokens closing (i + 1)) :=
  (h (some closing) []).mono (le_next _) fun _ _ _ hfound => hfound.1

theorem block_ends (hi : i < tokens.length) (hblocks : BlocksAt tokens (i + 1))
    (hitems : ItemsAt tokens (i + 1)) :
    Ends (i + 1) (block tokens i hi) fun b j =>
      ∀ context blocks, context.closing ≠ some tokens[i].kind →
        Joins tokens (.atBlock context blocks) i (.atBlock context (b :: blocks)) j := by
  have hread (context : Context) (blocks : List Block)
      (hclosing : context.closing ≠ some tokens[i].kind) := joins_readBlock blocks hi hclosing
  rw [block]
  simp only [State.readBlock] at hread
  cases hkind : tokens[i].kind <;> simp only [hkind] at hread ⊢
  case paragraphOpen =>
    refine .some (lt_span ..) fun context blocks hclosing => ?_
    exact (hread context blocks hclosing).trans (joins_span (closes_leaf _ _ .paragraph _) i)
  case headingOpen =>
    refine .some (lt_span ..) fun context blocks hclosing => ?_
    exact (hread context blocks hclosing).trans (joins_span (closes_leaf _ _ .heading _) i)
  case listOpen ordered =>
    rw [list]
    refine (hitems ordered []).bind fun found j hj hfound =>
      .some (Nat.le_of_succ_le hj) fun context blocks hclosing => ?_
    exact (hread context blocks hclosing).trans (hfound context blocks tokens[i])
  case quoteOpen =>
    rw [quote]
    refine (hblocks.children .quoteClose).bind fun children j hj hchildren =>
      .some hj fun context blocks hclosing => ?_
    have hquote := hchildren (.quote tokens[i] blocks context) rfl
    rw [Context.leave, List.reverse_reverse] at hquote
    exact (hread context blocks hclosing).trans hquote
  case tableOpen =>
    refine .some (Nat.le_of_lt (lt_tableParts [] (i + 1))) fun context blocks hclosing => ?_
    exact (hread context blocks hclosing).trans (joins_tableParts context blocks _ [] (i + 1))
  -- every other token is a block of its own
  all_goals exact .some (Nat.le_refl _) hread

/-- The content of a task is the first child of its item. -/
theorem taskItem_ends (hi : i < tokens.length) (hblocks : ∀ k, i < k → BlocksAt tokens k) :
    Ends (i + 1) (taskItem tokens i hi) (Children tokens .itemClose (i + 1)) := by
  have hempty := (hblocks (i + 1) (Nat.lt_succ_self i)).children .itemClose
  rw [taskItem]
  by_cases hnext : i + 1 < tokens.length
  · have hread (context : Context) (hclosing : context.closing = some .itemClose)
        (hkind : tokens[i + 1].kind ≠ .itemClose) :
        Joins tokens (.atBlock context []) (i + 1) (.readBlock context [] tokens[i + 1]) (i + 2) :=
      joins_readBlock [] hnext (by simpa [hclosing] using hkind.symm)
    simp only [State.readBlock] at hread
    rw [dif_pos hnext]
    split
    · next hkind =>
      simp only [hkind, ne_eq, reduceCtorEq, not_false_eq_true, forall_const] at hread
      have hspan := lt_span tokens .paragraphClose (i + 1)
      refine (hblocks _ (Nat.lt_of_succ_lt hspan) _ _).mono
        (Nat.le_trans (Nat.le_of_lt hspan) (le_next _)) ?_
      intro children k _ hchildren context hclosing
      have hcontent := (hread context hclosing).trans (joins_span (closes_leaf _ _ .paragraph _) _)
      exact hcontent.trans (hchildren.1 context hclosing)
    · next hkind =>
      simp only [hkind, ne_eq, reduceCtorEq, not_false_eq_true, forall_const] at hread
      refine (hblocks (i + 2) (by omega) _ _).mono (Nat.le_trans (by omega) (le_next _)) ?_
      intro children k _ hchildren context hclosing
      exact (hread context hclosing).trans (hchildren.1 context hclosing)
    · exact hempty
  · rw [dif_neg hnext]
    exact hempty

theorem listItem_ends (hi : i < tokens.length) (hblocks : BlocksAt tokens (i + 1)) :
    Ends (i + 1) (listItem tokens i hi) (Children tokens .itemClose (i + 1)) := by
  rw [listItem]
  exact hblocks.children .itemClose

theorem joins_item {ordered task : Bool} {children : List Block} (hi : i < tokens.length)
    (hkind : tokens[i].kind = .itemOpen)
    (htask : (!ordered && tokens[i].opensTask (tokens.drop (i + 1))) = task)
    (hchildren : Children tokens .itemClose (i + 1) children j) (context : Context)
    (blocks : List Block) (opening : Token) (before : List Item) :
    Joins tokens (.inList context blocks opening ordered before) i
      (.inList context blocks opening ordered (⟨tokens[i], task, children⟩ :: before)) j := by
  have hread := joins_read (.inList context blocks opening ordered before) hi
  simp only [State.read, hkind, reduceCtorEq, ↓reduceIte, htask] at hread
  have hitem := hchildren (.item opening ordered before tokens[i] task blocks context) rfl
  rw [Context.leave, List.reverse_reverse] at hitem
  exact hread.trans hitem

theorem item_ends (ordered : Bool) (hi : i < tokens.length)
    (hblocks : ∀ k, i < k → BlocksAt tokens k) (hkind : tokens[i].kind = .itemOpen) :
    Ends (i + 1) (item tokens ordered i hi) fun found j =>
      ∀ context blocks opening before,
        Joins tokens (.inList context blocks opening ordered before) i
          (.inList context blocks opening ordered (found :: before)) j := by
  rw [item]
  split
  · next htask =>
    refine (taskItem_ends hi hblocks).bind fun children j hj hchildren => .some hj ?_
    exact joins_item hi hkind htask hchildren
  · next htask =>
    rw [Bool.not_eq_true] at htask
    refine (listItem_ends hi (hblocks (i + 1) (Nat.lt_succ_self i))).bind
      fun children j hj hchildren => .some hj ?_
    exact joins_item hi hkind htask hchildren

/-- Behind the last token nothing is read. -/
theorem blocksAt_of_not_lt (hi : ¬i < tokens.length) : BlocksAt tokens i := by
  intro closing before
  rw [blocks, dif_neg hi, next_eq_self hi]
  refine .some (Nat.le_refl _) ⟨fun context _ => ?_, fun _ => Nat.le_of_not_lt hi⟩
  exact joins_of_finish hi (Nat.le_refl i) (finish_leave context before.reverse).symm

theorem itemsAt_of_not_lt (hi : ¬i < tokens.length) : ItemsAt tokens i := by
  intro ordered before
  rw [items, dif_neg hi]
  refine .some (Nat.le_refl _) fun context blocks opening => ?_
  exact joins_of_finish hi (Nat.le_succ i) (by simp [State.finish])

/-- The loop over blocks ends when the loops behind its place do. -/
theorem blocksAt_of_lt (hi : i < tokens.length) (hblocks : ∀ k, i < k → BlocksAt tokens k)
    (hitems : ItemsAt tokens (i + 1)) : BlocksAt tokens i := by
  intro closing before
  rw [blocks, dif_pos hi, next_eq hi]
  by_cases hclosing : closing = some tokens[i].kind
  · rw [if_pos hclosing]
    refine .some (Nat.le_refl _) ⟨fun context hcontext => ?_, fun hnone => ?_⟩
    · have hread := joins_read (.atBlock context before.reverse) hi
      rwa [State.read, if_pos (hcontext.trans hclosing)] at hread
    · simp [hnone] at hclosing
  · rw [if_neg hclosing]
    refine (block_ends hi (hblocks _ (Nat.lt_succ_self i)) hitems).bind fun b j hj hb => ?_
    have hlt : i < j := hj
    simp only [hlt, ↓reduceIte]
    refine (hblocks j hj closing (before ++ [b])).mono (Nat.le_trans hj (le_next _)) ?_
    intro found k _ hfound
    rw [List.reverse_append] at hfound
    refine ⟨fun context hcontext => ?_, hfound.2⟩
    exact (hb context before.reverse (hcontext ▸ hclosing)).trans (hfound.1 context hcontext)

/-- The loop over items ends when the loops behind its place do. -/
theorem itemsAt_of_lt (hi : i < tokens.length) (hblocks : ∀ k, i < k → BlocksAt tokens k)
    (hitems : ∀ k, i < k → ItemsAt tokens k) : ItemsAt tokens i := by
  intro ordered before
  have hread (context : Context) (blocks : List Block) (opening : Token) :=
    joins_read (.inList context blocks opening ordered before.reverse) hi
  simp only [State.read] at hread
  rw [items, dif_pos hi]
  by_cases hclose : tokens[i].kind = .listClose ordered
  · simp only [hclose, ↓reduceIte, List.reverse_reverse] at hread
    rw [if_pos hclose]
    exact .some (Nat.le_refl _) hread
  · rw [if_neg hclose]
    by_cases hitem : tokens[i].kind = .itemOpen
    · rw [if_pos hitem]
      refine (item_ends ordered hi hblocks hitem).bind fun it j hj hit => ?_
      have hlt : i < j := hj
      simp only [hlt, ↓reduceIte]
      refine (hitems j hj ordered (before ++ [it])).mono (Nat.le_succ_of_le hj) ?_
      intro found k _ hfound context blocks opening
      rw [List.reverse_append] at hfound
      exact (hit context blocks opening before.reverse).trans (hfound context blocks opening)
    · simp only [hclose, hitem, ↓reduceIte] at hread
      rw [if_neg hitem]
      refine (hitems (i + 1) (Nat.lt_succ_self i) ordered before).mono (Nat.le_succ _) ?_
      intro found k _ hfound context blocks opening
      exact (hread context blocks opening).trans (hfound context blocks opening)

variable (tokens) in
/-- Every loop ends, since it starts others only behind its own place. -/
theorem blocksAt_itemsAt (i : Nat) : BlocksAt tokens i ∧ ItemsAt tokens i := by
  induction hn : tokens.length - i using Nat.strongRecOn generalizing i with
  | ind n ih =>
      by_cases hi : i < tokens.length
      · have hbehind (k : Nat) (hk : i < k) := ih (tokens.length - k) (by omega) k rfl
        have hblocks (k : Nat) (hk : i < k) := (hbehind k hk).1
        have hitems (k : Nat) (hk : i < k) := (hbehind k hk).2
        exact ⟨blocksAt_of_lt hi hblocks (hitems _ (Nat.lt_succ_self i)),
          itemsAt_of_lt hi hblocks hitems⟩
      · exact ⟨blocksAt_of_not_lt hi, itemsAt_of_not_lt hi⟩

/-! ### The whole walk -/

/-- A call at a place has a result, and it goes on behind that place. -/
def Advances {α : Type} (i : Nat) (x : Option (α × Nat)) : Prop := ∃ a j, x = some (a, j) ∧ i < j

theorem Ends.advances {α : Type} {x : Option (α × Nat)} {P : α → Nat → Prop}
    (h : Ends (i + 1) x P) : Advances i x := by
  obtain ⟨a, j, hx, hj, -⟩ := h
  exact ⟨a, j, hx, hj⟩

theorem blocks_advances (closing : Option TokenKind) (before : List Block)
    (hi : i < tokens.length) : Advances i (blocks tokens closing before i) := by
  have hends := (blocksAt_itemsAt tokens i).1 closing before
  rw [next_eq hi] at hends
  exact hends.advances

theorem list_advances (ordered : Bool) (hi : i < tokens.length) :
    Advances i (list tokens ordered i hi) := by
  have hends := (blocksAt_itemsAt tokens (i + 1)).2 ordered []
  rw [list]
  exact (hends.mono (Nat.le_succ _) fun _ _ _ h => h).advances

theorem listItem_advances (hi : i < tokens.length) : Advances i (listItem tokens i hi) :=
  (listItem_ends hi (blocksAt_itemsAt tokens (i + 1)).1).advances

theorem taskItem_advances (hi : i < tokens.length) : Advances i (taskItem tokens i hi) :=
  (taskItem_ends hi fun k _ => (blocksAt_itemsAt tokens k).1).advances

theorem quote_advances (hi : i < tokens.length) : Advances i (quote tokens i hi) := by
  rw [quote]
  exact ((blocksAt_itemsAt tokens (i + 1)).1.children .quoteClose).advances

theorem lt_table (i : Nat) : i < (table tokens i).2 :=
  Nat.lt_of_succ_lt (lt_tableParts [] (i + 1))

/-- The walk from the first token finds the outline. -/
theorem blocks_eq_ofTokens (tokens : List Token) :
    ∃ j, blocks tokens none [] 0 = some (ofTokens tokens, j) := by
  obtain ⟨found, j, hfound, -, hjoins, hj⟩ := (blocksAt_itemsAt tokens 0).1 none []
  have houtline := hjoins .top rfl
  rw [Joins, List.drop_zero, List.drop_of_length_le (hj rfl), List.reverse_nil] at houtline
  refine ⟨j, hfound.trans ?_⟩
  rw [ofTokens, houtline, State.readAll, Context.leave, State.finish, Context.finish,
    List.reverse_reverse]

end MarkdownAdf.Outline.Walk
