import Mathlib.Tactic.Tauto
import MarkdownAdf.Token.Task

/-!
# Balanced items

Tokens are balanced when every item that they open is closed among them and they close no other.
What stands between the opening token of an item and the closing token that goes with it is
balanced, and so is what stands before a token that belongs to the item itself. The scan for the
checkbox of a task sees just these tokens.
-/

namespace MarkdownAdf.Token

/-- How a token changes the number of open items. -/
def itemStep (t : Token) : Int :=
  if t.kind = .itemOpen then 1 else if t.kind = .itemClose then -1 else 0

/-- The items that tokens open without those that they close. -/
def itemNet : List Token → Int
  | [] => 0
  | t :: ts => t.itemStep + itemNet ts

/-- With `depth` items open before them, tokens never close one more than are open. -/
def Within (depth : Int) (ts : List Token) : Prop :=
  ∀ before, before <+: ts → 0 ≤ depth + itemNet before

structure Balanced (ts : List Token) : Prop where
  within : Within 0 ts
  net : itemNet ts = 0

variable {t open' close : Token} {as bs ts inner : List Token} {depth : Int}

@[simp]
theorem itemStep_of_open (h : t.kind = .itemOpen) : t.itemStep = 1 := by
  simp [itemStep, h]

@[simp]
theorem itemStep_of_close (h : t.kind = .itemClose) : t.itemStep = -1 := by
  simp [itemStep, h]

theorem itemStep_of_ne (hopen : t.kind ≠ .itemOpen) (hclose : t.kind ≠ .itemClose) :
    t.itemStep = 0 := by
  simp [itemStep, hopen, hclose]

@[simp]
theorem itemNet_nil : itemNet [] = 0 := rfl

@[simp]
theorem itemNet_cons (t : Token) (ts : List Token) :
    itemNet (t :: ts) = t.itemStep + itemNet ts := rfl

@[simp]
theorem itemNet_append (as bs : List Token) : itemNet (as ++ bs) = itemNet as + itemNet bs := by
  induction as with
  | nil => simp
  | cons t as ih => rw [List.cons_append, itemNet_cons, itemNet_cons, ih, Int.add_assoc]

theorem Within.nonneg (h : Within depth ts) : 0 ≤ depth := by
  simpa using h [] List.nil_prefix

theorem within_nil : Within depth [] ↔ 0 ≤ depth := by
  simp [Within]

theorem within_cons : Within depth (t :: ts) ↔ 0 ≤ depth ∧ Within (depth + t.itemStep) ts := by
  constructor
  · intro h
    refine ⟨h.nonneg, ?_⟩
    intro before hbefore
    simpa [Int.add_assoc] using h (t :: before) (List.cons_prefix_cons.mpr ⟨rfl, hbefore⟩)
  · rintro ⟨hdepth, h⟩ before hbefore
    rcases List.prefix_cons_iff.mp hbefore with rfl | ⟨rest, rfl, hrest⟩
    · simpa using hdepth
    · simpa [Int.add_assoc] using h rest hrest

def decidableWithin (depth : Int) : (ts : List Token) → Decidable (Within depth ts)
  | [] => decidable_of_iff _ within_nil.symm
  | t :: ts =>
    have := decidableWithin (depth + t.itemStep) ts
    decidable_of_iff _ within_cons.symm

instance : Decidable (Within depth ts) := decidableWithin depth ts

instance : Decidable (Balanced ts) :=
  decidable_of_iff (Within 0 ts ∧ itemNet ts = 0) ⟨fun h => ⟨h.1, h.2⟩, fun h => ⟨h.1, h.2⟩⟩

theorem within_append :
    Within depth (as ++ bs) ↔ Within depth as ∧ Within (depth + itemNet as) bs := by
  induction as generalizing depth with
  | nil =>
      rw [List.nil_append, within_nil, itemNet_nil, Int.add_zero]
      exact ⟨fun h => ⟨h.nonneg, h⟩, And.right⟩
  | cons t as ih => rw [List.cons_append, within_cons, within_cons, ih, itemNet_cons, and_assoc,
      Int.add_assoc]

/-- With more items open before them tokens are still within. -/
theorem Within.mono {more : Int} (h : Within depth ts) (hmore : depth ≤ more) :
    Within more ts := by
  intro before hbefore
  have hnonneg := h before hbefore
  omega

theorem balanced_nil : Balanced [] := ⟨within_nil.mpr (Int.le_refl 0), rfl⟩

theorem Balanced.append (ha : Balanced as) (hb : Balanced bs) : Balanced (as ++ bs) := by
  constructor
  · rw [within_append, ha.net]
    exact ⟨ha.within, hb.within⟩
  · rw [itemNet_append, ha.net, hb.net, Int.add_zero]

/-- A token that neither opens nor closes an item may stand anywhere. -/
theorem Balanced.cons (h : Balanced ts) (ht : t.itemStep = 0) : Balanced (t :: ts) := by
  constructor
  · rw [within_cons, ht]
    exact ⟨Int.le_refl 0, h.within⟩
  · rw [itemNet_cons, ht, h.net, Int.add_zero]

/-- A whole item is balanced. -/
theorem Balanced.item (h : Balanced inner) (hopen : open'.kind = .itemOpen)
    (hclose : close.kind = .itemClose) : Balanced (open' :: (inner ++ [close])) := by
  have hinner : Within 1 inner := h.within.mono (by omega)
  constructor
  · simp [within_cons, within_append, within_nil, hopen, hclose, hinner, h.net]
  · simp [hopen, hclose, h.net]

/-- The closing token that goes with an opening token stands at one place only. -/
theorem Balanced.eq_of_close {inner' : List Token} {close' : Token} (h : Balanced inner)
    (h' : Balanced inner') (hclose : close.kind = .itemClose) (hclose' : close'.kind = .itemClose)
    (hsplit : inner ++ close :: as = inner' ++ close' :: bs) : inner = inner' := by
  have hlonger {xs ys : List Token} {c : Token} (hx : Balanced xs) (hy : Balanced ys)
      (hc : c.kind = .itemClose) : ¬xs ++ [c] <+: ys := by
    intro hprefix
    have hnonneg := hy.within _ hprefix
    simp [hx.net, hc] at hnonneg
  rcases List.append_eq_append_iff.mp hsplit with ⟨more, rfl, hmore⟩ | ⟨more, rfl, hmore⟩
  · cases more with
    | nil => simp
    | cons c more =>
        obtain ⟨rfl, -⟩ := List.cons.inj hmore
        exact absurd (List.prefix_append_right_inj inner |>.mpr (by simp)) (hlonger h h' hclose)
  · cases more with
    | nil => simp
    | cons c more =>
        obtain ⟨rfl, -⟩ := List.cons.inj hmore
        exact absurd (List.prefix_append_right_inj inner' |>.mpr (by simp)) (hlonger h' h hclose')

/-! ### The scan for a checkbox -/

/-- Whether an inline token with a checkbox stands at the depth of the item itself, when `depth`
items below it are open before the tokens. -/
def OwnsCheckbox (depth : Int) (ts : List Token) : Prop :=
  ∃ before own after, ts = before ++ own :: after ∧ Within depth before ∧
    depth + itemNet before = 0 ∧ own.kind = .inline ∧ own.hasCheckbox = true

theorem not_ownsCheckbox_nil : ¬OwnsCheckbox depth [] := by
  rintro ⟨before, own, after, hsplit, -⟩
  simp at hsplit

theorem ownsCheckbox_cons : OwnsCheckbox depth (t :: ts) ↔
    depth = 0 ∧ t.kind = .inline ∧ t.hasCheckbox = true ∨
      0 ≤ depth ∧ OwnsCheckbox (depth + t.itemStep) ts := by
  constructor
  · rintro ⟨before, own, after, hsplit, hwithin, hnet, hown⟩
    cases before with
    | nil =>
        obtain ⟨rfl, rfl⟩ := List.cons.inj hsplit
        exact .inl ⟨by simpa using hnet, hown⟩
    | cons u before =>
        obtain ⟨rfl, rfl⟩ := List.cons.inj hsplit
        rw [within_cons] at hwithin
        rw [itemNet_cons, ← Int.add_assoc] at hnet
        exact .inr ⟨hwithin.1, before, own, after, rfl, hwithin.2, hnet, hown⟩
  · rintro (⟨rfl, hown⟩ | ⟨hdepth, before, own, after, rfl, hwithin, hnet, hown⟩)
    · exact ⟨[], t, ts, rfl, within_nil.mpr (Int.le_refl 0), rfl, hown⟩
    · refine ⟨t :: before, own, after, rfl, within_cons.mpr ⟨hdepth, hwithin⟩, ?_, hown⟩
      rw [itemNet_cons, ← Int.add_assoc, hnet]

theorem not_ownsCheckbox_of_neg (h : depth < 0) : ¬OwnsCheckbox depth ts := by
  rintro ⟨before, own, after, -, hwithin, -⟩
  have hnonneg := hwithin.nonneg
  omega

theorem not_ownsCheckbox_of_ne_inline (h : ∀ t ∈ ts, t.kind ≠ .inline) :
    ¬OwnsCheckbox depth ts := by
  rintro ⟨before, own, after, rfl, -, -, hinline, -⟩
  exact h own (by simp) hinline

/-- A token that neither opens nor closes an item and is not inline makes no difference. -/
theorem ownsCheckbox_cons_of_ne (hstep : t.itemStep = 0) (hinline : t.kind ≠ .inline) :
    OwnsCheckbox depth (t :: ts) ↔ OwnsCheckbox depth ts := by
  rw [ownsCheckbox_cons, hstep, Int.add_zero]
  constructor
  · rintro (⟨-, hkind, -⟩ | ⟨-, hown⟩)
    · exact absurd hkind hinline
    · exact hown
  · intro hown
    refine .inr ⟨Int.not_lt.mp ?_, hown⟩
    intro hneg
    exact not_ownsCheckbox_of_neg hneg hown

/-- The scan finds the checkboxes at the depth of the item itself. -/
theorem itemHasCheckbox_iff (depth : Nat) (ts : List Token) :
    itemHasCheckbox depth ts = true ↔ OwnsCheckbox depth ts := by
  fun_induction itemHasCheckbox depth ts with
  | case1 depth => simp [not_ownsCheckbox_nil]
  | case2 depth t rest hkind ih => simp [ownsCheckbox_cons, hkind, ih]
  | case3 t rest hkind => simp [ownsCheckbox_cons, hkind, not_ownsCheckbox_of_neg]
  | case4 t rest depth hkind ih =>
      have hdepth : (0 : Int) ≤ (depth + 1 : Nat) := by omega
      have hback : ((depth + 1 : Nat) : Int) + -1 = depth := by omega
      rw [ih, ownsCheckbox_cons, itemStep_of_close hkind, hback]
      simp only [hkind, hdepth, reduceCtorEq, false_and, and_false, false_or, true_and]
  | case5 t rest hkind ih =>
      have hstep : t.itemStep = 0 := itemStep_of_ne (by simp [hkind]) (by simp [hkind])
      simp [ownsCheckbox_cons, hkind, hstep, ih]
  | case6 depth t rest hopen hclose hclose' hinline ih =>
      have hne : t.kind ≠ .itemClose := by
        intro hkind
        cases depth with
        | zero => exact hclose hkind rfl
        | succ depth => exact hclose' depth hkind rfl
      have hown : ¬((depth : Int) = 0 ∧ t.kind = .inline ∧ t.hasCheckbox = true) := by
        rintro ⟨hdepth, hkind, -⟩
        exact hinline hkind (by omega)
      have hdepth : (0 : Int) ≤ depth := by omega
      simp only [ownsCheckbox_cons, itemStep_of_ne hopen hne, Int.add_zero, hown, hdepth, ih,
        false_or, true_and]

theorem ownsCheckbox_append : OwnsCheckbox depth (as ++ bs) ↔
    OwnsCheckbox depth as ∨ Within depth as ∧ OwnsCheckbox (depth + itemNet as) bs := by
  induction as generalizing depth with
  | nil =>
      rw [List.nil_append, itemNet_nil, Int.add_zero, within_nil]
      constructor
      · intro h
        refine .inr ⟨Int.not_lt.mp ?_, h⟩
        intro hneg
        exact not_ownsCheckbox_of_neg hneg h
      · rintro (h | ⟨-, h⟩)
        · exact absurd h not_ownsCheckbox_nil
        · exact h
  | cons t as ih =>
      rw [List.cons_append, ownsCheckbox_cons, ownsCheckbox_cons, ih, within_cons, itemNet_cons,
        ← Int.add_assoc]
      tauto

/-- What stands in an item below is passed over. -/
theorem ownsCheckbox_inner (h : Within 0 inner) (hdepth : 0 ≤ depth) :
    OwnsCheckbox (depth + 1) (inner ++ ts) ↔ OwnsCheckbox (depth + 1 + itemNet inner) ts := by
  have hinner : ¬OwnsCheckbox (depth + 1) inner := by
    rintro ⟨before, own, after, rfl, -, hnet, -⟩
    have hnonneg := h before (List.prefix_append before _)
    omega
  have hwithin : Within (depth + 1) inner := h.mono (by omega)
  rw [ownsCheckbox_append]
  exact ⟨fun hown => (hown.resolve_left hinner).2, fun hown => .inr ⟨hwithin, hown⟩⟩

/-- Other tokens inside an item below, or all tokens behind its opening when nothing closes it, may
stand for those that are there. -/
theorem ownsCheckbox_replace {inner' : List Token} (hopen : open'.kind = .itemOpen)
    (h : Balanced inner ∨ Within 0 inner ∧ bs = []) (h' : Balanced inner') :
    OwnsCheckbox depth (as ++ open' :: (inner' ++ bs)) ↔
      OwnsCheckbox depth (as ++ open' :: (inner ++ bs)) := by
  have hbehind (d : Int) :
      OwnsCheckbox d (open' :: (inner' ++ bs)) ↔ OwnsCheckbox d (open' :: (inner ++ bs)) := by
    rw [ownsCheckbox_cons, ownsCheckbox_cons, itemStep_of_open hopen]
    refine or_congr_right (and_congr_right ?_)
    intro hd
    rw [ownsCheckbox_inner h'.within hd, h'.net, Int.add_zero]
    rcases h with h | ⟨h, rfl⟩
    · rw [ownsCheckbox_inner h.within hd, h.net, Int.add_zero]
    · rw [ownsCheckbox_inner h hd]
      exact iff_of_false not_ownsCheckbox_nil not_ownsCheckbox_nil
  rw [ownsCheckbox_append, ownsCheckbox_append, hbehind]

/-- The tokens behind the end of the item have no part in it. -/
theorem ownsCheckbox_closed (h : Balanced inner) (hclose : close.kind = .itemClose) :
    OwnsCheckbox 0 (inner ++ close :: ts) ↔ OwnsCheckbox 0 inner := by
  have hend : ¬OwnsCheckbox 0 (close :: ts) := by
    rw [ownsCheckbox_cons, itemStep_of_close hclose]
    rintro (⟨-, hinline, -⟩ | ⟨-, hneg⟩)
    · rw [hclose] at hinline
      cases hinline
    · exact not_ownsCheckbox_of_neg (by omega) hneg
  rw [ownsCheckbox_append, h.net, Int.zero_add]
  exact ⟨fun hown => hown.resolve_right fun hbehind => hend hbehind.2, .inl⟩

/-! ### Tasks -/

theorem hasTaskClass_iff :
    t.hasTaskClass = true ↔
      ∃ s, t.attrs.text? "class" = some s ∧ taskClass ∈ Text.words s := by
  rw [hasTaskClass]
  cases t.attrs.text? "class" <;> simp

theorem ownsCheckbox_zero_iff :
    OwnsCheckbox 0 ts ↔
      ∃ before own after, ts = before ++ own :: after ∧ Balanced before ∧ own.kind = .inline ∧
        ∃ c ∈ own.inlines, c.isCheckbox = true := by
  constructor
  · rintro ⟨before, own, after, rfl, hwithin, hnet, hinline, hcheckbox⟩
    rw [Int.zero_add] at hnet
    exact ⟨before, own, after, rfl, ⟨hwithin, hnet⟩, hinline, List.any_eq_true.mp hcheckbox⟩
  · rintro ⟨before, own, after, rfl, hbefore, hinline, hcheckbox⟩
    refine ⟨before, own, after, rfl, hbefore.within, ?_, hinline, List.any_eq_true.mpr hcheckbox⟩
    rw [hbefore.net, Int.add_zero]

theorem opensTask_iff :
    t.opensTask ts = true ↔ t.hasTaskClass = true ∨ OwnsCheckbox 0 ts := by
  rw [opensTask, Bool.or_eq_true, itemHasCheckbox_iff, Int.natCast_zero]

/-- Whether an item is a task depends on the tokens behind its opening only through its own
checkboxes. -/
theorem opensTask_congr {ts' : List Token} (h : OwnsCheckbox 0 ts ↔ OwnsCheckbox 0 ts') :
    t.opensTask ts = t.opensTask ts' := by
  rw [Bool.eq_iff_iff, opensTask_iff, opensTask_iff, h]

end MarkdownAdf.Token
