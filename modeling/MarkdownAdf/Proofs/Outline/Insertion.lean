import MarkdownAdf.Outline.Reader
import MarkdownAdf.Proofs.Outline.Balance

/-!
# Tokens without a meaning

A token of a kind that the reader does not know is passed over, or it is left in the outline as a
stray. Outlines are compared without their strays, except for one that stands first in an item,
where it would keep what follows from being the content of a task. The reader goes through the same
tokens in the same way whatever strays it has read before.
-/

namespace MarkdownAdf

/-! ### Tidy outlines -/

def Block.isStray : Block → Bool
  | .stray _ => true
  | _ => false

mutual

/-- The block without the strays in it. -/
def Block.tidy : Block → Block
  | .quote opening children => .quote opening (Block.tidyAll children)
  | .list opening ordered items => .list opening ordered (Item.tidyAll items)
  | b => b

/-- The blocks without strays. -/
def Block.tidyAll : List Block → List Block
  | [] => []
  | b :: rest => if b.isStray then Block.tidyAll rest else Block.tidy b :: Block.tidyAll rest

/-- The item without strays behind its first child. -/
def Item.tidy : Item → Item
  | ⟨opening, task, []⟩ => ⟨opening, task, []⟩
  | ⟨opening, task, b :: rest⟩ => ⟨opening, task, Block.tidy b :: Block.tidyAll rest⟩

def Item.tidyAll : List Item → List Item
  | [] => []
  | i :: rest => Item.tidy i :: Item.tidyAll rest

end

/-- The children of an item without strays behind the first. -/
def Block.tidyBehind : List Block → List Block
  | [] => []
  | b :: rest => b.tidy :: Block.tidyAll rest

theorem Item.tidy_eq (opening : Token) (task : Bool) (children : List Block) :
    Item.tidy ⟨opening, task, children⟩ = ⟨opening, task, Block.tidyBehind children⟩ := by
  cases children <;> rfl

theorem Item.tidyAll_append (is js : List Item) :
    Item.tidyAll (is ++ js) = Item.tidyAll is ++ Item.tidyAll js := by
  induction is with
  | nil => rfl
  | cons i is ih => rw [List.cons_append, Item.tidyAll, Item.tidyAll, ih, List.cons_append]

namespace Block

theorem tidyAll_append (as bs : List Block) : tidyAll (as ++ bs) = tidyAll as ++ tidyAll bs := by
  induction as with
  | nil => rfl
  | cons a as ih =>
      rw [List.cons_append, tidyAll, tidyAll, ih]
      split
      · rfl
      · rfl

theorem tidyBehind_append {as : List Block} (h : as ≠ []) (bs : List Block) :
    tidyBehind (as ++ bs) = tidyBehind as ++ tidyAll bs := by
  cases as with
  | nil => exact absurd rfl h
  | cons a as => rw [List.cons_append, tidyBehind, tidyBehind, tidyAll_append, List.cons_append]

variable {as as' : List Block} {b b' : Block}

theorem tidyAll_concat (h : tidyAll as = tidyAll as') (hstray : b.isStray = b'.isStray)
    (hb : b.tidy = b'.tidy) : tidyAll (as ++ [b]) = tidyAll (as' ++ [b']) := by
  have hone : tidyAll [b] = tidyAll [b'] := by simp only [tidyAll, hstray, hb]
  rw [tidyAll_append, tidyAll_append, h, hone]

theorem tidyBehind_concat (h : tidyBehind as = tidyBehind as') (hstray : b.isStray = b'.isStray)
    (hb : b.tidy = b'.tidy) : tidyBehind (as ++ [b]) = tidyBehind (as' ++ [b']) := by
  have hone : tidyAll [b] = tidyAll [b'] := by simp only [tidyAll, hstray, hb]
  cases as with
  | nil =>
      cases as' with
      | nil => exact congrArg (fun b => [b]) hb
      | cons a' as' => cases h
  | cons a as =>
      cases as' with
      | nil => cases h
      | cons a' as' =>
          rw [tidyBehind_append (List.cons_ne_nil a as),
            tidyBehind_append (List.cons_ne_nil a' as'), h, hone]

end Block

namespace Outline

open Block

/-! ### The reader beside itself -/

/-- Two places in an outline that differ in strays alone. -/
inductive Context.Alike : Context → List Block → Context → List Block → Prop where
  | top {bs bs' : List Block} (h : tidyAll bs.reverse = tidyAll bs'.reverse) :
      Alike .top bs .top bs'
  | quote (opening : Token) {outer outer' : Context} {before before' bs bs' : List Block}
      (houter : Alike outer before outer' before')
      (h : tidyAll bs.reverse = tidyAll bs'.reverse) :
      Alike (.quote opening before outer) bs (.quote opening before' outer') bs'
  | item (list : Token) (ordered : Bool) (opening : Token) (task : Bool) {outer outer' : Context}
      {before before' bs bs' : List Block} {items items' : List Item}
      (houter : Alike outer before outer' before')
      (hitems : Item.tidyAll items.reverse = Item.tidyAll items'.reverse)
      (h : tidyBehind bs.reverse = tidyBehind bs'.reverse) :
      Alike (.item list ordered items opening task before outer) bs
        (.item list ordered items' opening task before' outer') bs'

namespace Context.Alike

variable {c c' : Context} {bs bs' : List Block}

theorem refl (c : Context) (bs : List Block) : Context.Alike c bs c bs := by
  induction c generalizing bs with
  | top => exact .top rfl
  | quote opening before outer ih => exact .quote opening (ih before) rfl
  | item list ordered items opening task before outer ih =>
      exact .item list ordered opening task (ih before) rfl rfl

theorem closing_eq (h : Context.Alike c bs c' bs') : c.closing = c'.closing := by
  cases h <;> rfl

/-- Blocks that differ in strays alone are read at both places. -/
theorem cons {b b' : Block} (h : Context.Alike c bs c' bs') (hstray : b.isStray = b'.isStray)
    (hb : b.tidy = b'.tidy) : Context.Alike c (b :: bs) c' (b' :: bs') := by
  cases h with
  | top h => exact .top (by simpa using tidyAll_concat h hstray hb)
  | quote opening houter h =>
      exact .quote opening houter (by simpa using tidyAll_concat h hstray hb)
  | item list ordered opening task houter hitems h =>
      exact .item list ordered opening task houter hitems
        (by simpa using tidyBehind_concat h hstray hb)

theorem cons_self (h : Context.Alike c bs c' bs') (b : Block) :
    Context.Alike c (b :: bs) c' (b :: bs') :=
  h.cons rfl rfl

/-- A stray is read at one place alone. -/
theorem cons_stray (t : Token) (h : ∀ list ordered items opening task before outer,
    c = .item list ordered items opening task before outer → bs ≠ []) :
    Context.Alike c (.stray t :: bs) c bs := by
  have hall : tidyAll (.stray t :: bs).reverse = tidyAll bs.reverse := by
    rw [List.reverse_cons, tidyAll_append]
    exact List.append_nil _
  cases c with
  | top => exact .top hall
  | quote opening before outer => exact .quote opening (.refl outer before) hall
  | item list ordered items opening task before outer =>
      -- In front of all other children a stray would stay, for a task takes its content from there.
      refine .item list ordered opening task (.refl outer before) rfl ?_
      have hne : bs.reverse ≠ [] := by simpa using h _ _ _ _ _ _ _ rfl
      rw [List.reverse_cons, tidyBehind_append hne]
      exact List.append_nil _

/-- The quote that ends at such places. -/
theorem cons_quote (opening : Token) (h : Context.Alike c bs c' bs') {as as' : List Block}
    (has : tidyAll as.reverse = tidyAll as'.reverse) :
    Context.Alike c (.quote opening as.reverse :: bs) c' (.quote opening as'.reverse :: bs') :=
  h.cons rfl (by rw [tidy, tidy, has])

/-- The list that ends at such places. -/
theorem cons_list (list : Token) (ordered : Bool) (h : Context.Alike c bs c' bs')
    {is is' : List Item} (his : Item.tidyAll is.reverse = Item.tidyAll is'.reverse) :
    Context.Alike c (.list list ordered is.reverse :: bs)
      c' (.list list ordered is'.reverse :: bs') :=
  h.cons rfl (by rw [tidy, tidy, his])

/-- The item that ends in such a list. -/
theorem tidyAll_cons_item (opening : Token) (task : Bool) {is is' : List Item}
    {as as' : List Block} (his : Item.tidyAll is.reverse = Item.tidyAll is'.reverse)
    (has : tidyBehind as.reverse = tidyBehind as'.reverse) :
    Item.tidyAll (Item.mk opening task as.reverse :: is).reverse =
      Item.tidyAll (Item.mk opening task as'.reverse :: is').reverse := by
  rw [List.reverse_cons, List.reverse_cons, Item.tidyAll_append, Item.tidyAll_append, his]
  simp only [Item.tidyAll, Item.tidy_eq, has]

/-- The outlines at two such places are the same without strays. -/
theorem tidyAll_finish (h : Context.Alike c bs c' bs') :
    tidyAll (c.finish bs) = tidyAll (c'.finish bs') := by
  induction c generalizing bs c' bs' with
  | top =>
      cases h with
      | top h => exact h
  | quote opening before outer ih =>
      cases h with
      | quote _ houter h =>
          rw [finish, finish]
          exact ih (houter.cons_quote opening h)
  | item list ordered items opening task before outer ih =>
      cases h with
      | item _ _ _ _ houter hitems h =>
          rw [finish, finish]
          exact ih (houter.cons_list list ordered (tidyAll_cons_item opening task hitems h))

end Context.Alike

/-- Two readers that have read the same but for strays. -/
inductive State.Alike : State → State → Prop where
  | atBlock {c c' : Context} {bs bs' : List Block} (h : Context.Alike c bs c' bs') :
      Alike (.atBlock c bs) (.atBlock c' bs')
  | inLeaf {c c' : Context} {bs bs' : List Block} (leaf : Leaf) (opening : Token)
      (body : Option Token) (h : Context.Alike c bs c' bs') :
      Alike (.inLeaf c bs leaf opening body) (.inLeaf c' bs' leaf opening body)
  | inList {c c' : Context} {bs bs' : List Block} {items items' : List Item} (opening : Token)
      (ordered : Bool) (h : Context.Alike c bs c' bs')
      (hitems : Item.tidyAll items.reverse = Item.tidyAll items'.reverse) :
      Alike (.inList c bs opening ordered items) (.inList c' bs' opening ordered items')
  | inTable {c c' : Context} {bs bs' : List Block} (opening : Token)
      (parts : List (TablePart (Option Token))) (h : Context.Alike c bs c' bs') :
      Alike (.inTable c bs opening parts) (.inTable c' bs' opening parts)
  | inCell {c c' : Context} {bs bs' : List Block} (opening : Token)
      (parts : List (TablePart (Option Token))) (header : Bool) (body : Option Token)
      (h : Context.Alike c bs c' bs') :
      Alike (.inCell c bs opening parts header body) (.inCell c' bs' opening parts header body)

namespace State.Alike

variable {c c' : Context} {bs bs' : List Block} {s s' : State}

theorem leave (h : Context.Alike c bs c' bs') : State.Alike (c.leave bs) (c'.leave bs') := by
  cases h with
  | top h => exact .atBlock (.top h)
  | quote opening houter h => exact .atBlock (houter.cons_quote opening h)
  | item list ordered opening task houter hitems h =>
      exact .inList list ordered houter (Context.Alike.tidyAll_cons_item opening task hitems h)

theorem readBlock (h : Context.Alike c bs c' bs') (t : Token) :
    State.Alike (.readBlock c bs t) (.readBlock c' bs' t) := by
  unfold State.readBlock
  split
  · exact .inLeaf .paragraph t none h
  · exact .inLeaf .heading t none h
  · exact .inList t _ h rfl
  · exact .atBlock (.quote t h rfl)
  · exact .atBlock (h.cons_self _)
  · exact .atBlock (h.cons_self _)
  · exact .inTable t [] h
  · exact .atBlock (h.cons_self _)
  · exact .atBlock (h.cons_self _)
  · exact .atBlock (h.cons_self _)

theorem readTable (h : Context.Alike c bs c' bs') (opening : Token)
    (parts : List (TablePart (Option Token))) (t : Token) :
    State.Alike (.readTable c bs opening parts t) (.readTable c' bs' opening parts t) := by
  unfold State.readTable
  split
  · exact .atBlock (h.cons_self _)
  · exact .inCell opening parts _ none h
  · split
    · exact .inTable opening _ h
    · exact .inTable opening parts h

/-- Two such readers read a token in the same way. -/
theorem read (h : State.Alike s s') (t : Token) (rest : List Token) :
    State.Alike (s.read t rest) (s'.read t rest) := by
  cases h with
  | atBlock h =>
      rw [State.read, State.read, h.closing_eq]
      split
      · exact leave h
      · exact readBlock h t
  | inLeaf leaf opening body h =>
      rw [State.read, State.read]
      split
      · exact .atBlock (h.cons_self _)
      · exact .inLeaf leaf opening _ h
  | inList opening ordered h hitems =>
      rw [State.read, State.read]
      split
      · exact .atBlock (h.cons_list opening ordered hitems)
      · split
        · exact .atBlock (.item opening ordered t _ h hitems rfl)
        · exact .inList opening ordered h hitems
  | inTable opening parts h => exact readTable h opening parts t
  | inCell opening parts header body h =>
      rw [State.read, State.read]
      split
      · exact .inTable opening _ h
      · exact .inCell opening parts header _ h

theorem readAll (h : State.Alike s s') (tokens : List Token) :
    State.Alike (s.readAll tokens) (s'.readAll tokens) := by
  induction tokens generalizing s s' with
  | nil => exact h
  | cons t rest ih => exact ih (h.read t rest)

theorem tidyAll_finish (h : State.Alike s s') : tidyAll s.finish = tidyAll s'.finish := by
  cases h with
  | atBlock h => exact h.tidyAll_finish
  | inLeaf leaf opening body h => exact (h.cons_self _).tidyAll_finish
  | inList opening ordered h hitems => exact (h.cons_list opening ordered hitems).tidyAll_finish
  | inTable opening parts h => exact (h.cons_self _).tidyAll_finish
  | inCell opening parts header body h => exact (h.cons_self _).tidyAll_finish

end State.Alike

/-! ### Insertion -/

/-- The reader stands right behind the opening of an item. -/
inductive State.IsFreshItem : State → Prop where
  | mk (list : Token) (ordered : Bool) (items : List Item) (opening : Token) (task : Bool)
      (before : List Block) (outer : Context) :
      IsFreshItem (.atBlock (.item list ordered items opening task before outer) [])

/-- Only the opening of an item brings the reader there. -/
theorem kind_of_isFreshItem_read {s : State} {t : Token} {rest : List Token}
    (h : (s.read t rest).IsFreshItem) : t.kind = .itemOpen := by
  cases s with
  | atBlock c bs =>
      rw [State.read] at h
      split at h
      · cases c <;> cases h
      · unfold State.readBlock at h
        split at h <;> cases h
  | inList c bs opening ordered items =>
      rw [State.read] at h
      split at h
      · cases h
      · split at h
        · assumption
        · cases h
  | inTable c bs opening parts =>
      rw [State.read] at h
      unfold State.readTable at h
      split at h
      · cases h
      · cases h
      · split at h <;> cases h
  | _ =>
      rw [State.read] at h
      split at h <;> cases h

theorem bodyWith_other {u : Token} {name : String} (hu : u.kind = .other name)
    (body : Option Token) : bodyWith body u = body := by
  simp [bodyWith, hu]

/-- A token of an unknown kind leaves the reader as it is or becomes a stray. -/
theorem alike_read_other {s : State} (hs : ¬s.IsFreshItem) {u : Token} {name : String}
    (hu : u.kind = .other name) (rest : List Token) : State.Alike (s.read u rest) s := by
  cases s with
  | atBlock c bs =>
      have hclosing : c.closing ≠ some u.kind := by cases c <;> simp [Context.closing, hu]
      rw [State.read, if_neg hclosing, State.readBlock, hu]
      refine .atBlock (.cons_stray u ?_)
      rintro list ordered items opening task before outer rfl rfl
      exact hs (.mk ..)
  | inLeaf c bs leaf opening body =>
      have hclosing : u.kind ≠ leaf.closing := by cases leaf <;> simp [Leaf.closing, hu]
      rw [State.read, if_neg hclosing, bodyWith_other hu]
      exact .inLeaf leaf opening body (.refl c bs)
  | inList c bs opening ordered items =>
      rw [State.read, if_neg (by simp [hu]), if_neg (by simp [hu])]
      exact .inList opening ordered (.refl c bs) rfl
  | inTable c bs opening parts =>
      rw [State.read, State.readTable, hu]
      exact .inTable opening parts (.refl c bs)
  | inCell c bs opening parts header body =>
      rw [State.read, if_neg (by simp [hu]), bodyWith_other hu]
      exact .inCell opening parts header body (.refl c bs)

theorem read_insert (s : State) (t : Token) {u : Token} {name : String}
    (hu : u.kind = .other name) (before after : List Token) :
    s.read t (before ++ u :: after) = s.read t (before ++ after) := by
  have htask : t.opensTask (before ++ u :: after) = t.opensTask (before ++ after) := by
    -- the scan for checkboxes passes over tokens of unknown kinds
    have hstep : u.itemStep = 0 := Token.itemStep_of_ne (by simp [hu]) (by simp [hu])
    apply Token.opensTask_congr
    rw [Token.ownsCheckbox_append, Token.ownsCheckbox_append,
      Token.ownsCheckbox_cons_of_ne hstep (by simp [hu])]
  cases s <;> simp only [State.read, htask]

/-- The reader goes through tokens in the same way with a token of an unknown kind inserted
somewhere, but not right behind the opening of an item. -/
theorem alike_readAll_insert {u : Token} {name : String} (hu : u.kind = .other name)
    (before after : List Token) {s : State} (hs : before = [] → ¬s.IsFreshItem)
    (hlast : before.getLast?.map Token.kind ≠ some .itemOpen) :
    State.Alike (s.readAll (before ++ u :: after)) (s.readAll (before ++ after)) := by
  -- Up to the insertion the two readers are one; its token is judged by the state it meets there.
  induction before generalizing s with
  | nil => exact (alike_read_other (hs rfl) hu after).readAll after
  | cons t rest ih =>
      rw [List.cons_append, List.cons_append, State.readAll, State.readAll, read_insert s t hu]
      refine ih ?_ ?_
      · rintro rfl hfresh
        exact hlast (by simp [kind_of_isFreshItem_read hfresh])
      · cases rest with
        | nil => nofun
        | cons v rest => rwa [List.getLast?_cons_cons] at hlast

/-- The outline is the same without strays. -/
theorem tidyAll_ofTokens_insert {u : Token} {name : String} (hu : u.kind = .other name)
    (before after : List Token) (hlast : before.getLast?.map Token.kind ≠ some .itemOpen) :
    tidyAll (ofTokens (before ++ u :: after)) = tidyAll (ofTokens (before ++ after)) := by
  have hstart : ¬(State.atBlock .top []).IsFreshItem := nofun
  exact (alike_readAll_insert hu before after (fun _ => hstart) hlast).tidyAll_finish

end Outline

end MarkdownAdf
