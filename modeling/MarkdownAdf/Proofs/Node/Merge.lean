import Mathlib.Data.List.SplitBy
import MarkdownAdf.Proofs.Node.Runs

/-!
# Joining as a normal form

Joining turns every maximal stretch of neighbouring texts with the same marks into one text. Nodes
that have no such neighbours stay as they are, and a list may be joined in parts that are put
together and joined again: a stretch that runs over a cut is found there.
-/

namespace MarkdownAdf

/-! ### Splitting a list into stretches -/

section Split

variable {α : Type} {r : α → α → Bool}

theorem splitBy_cons_of_not_rel {a b : α} (h : r a b = false) (l : List α) :
    (a :: b :: l).splitBy r = [a] :: (b :: l).splitBy r :=
  List.splitBy_append_cons (l := [a]) l (by simpa using h)

theorem exists_splitBy_cons (a : α) (l : List α) :
    ∃ stretch rest, (a :: l).splitBy r = (a :: stretch) :: rest := by
  have hflatten := List.flatten_splitBy r (a :: l)
  have hnil := List.nil_notMem_splitBy r (a :: l)
  cases hsplit : (a :: l).splitBy r with
  | nil => exact absurd hsplit (List.splitBy_ne_nil.mpr (List.cons_ne_nil a l))
  | cons first rest =>
      rw [hsplit] at hflatten hnil
      cases first with
      | nil => exact absurd List.mem_cons_self hnil
      | cons b stretch =>
          obtain ⟨rfl, -⟩ := List.cons.inj hflatten
          exact ⟨stretch, rest, rfl⟩

/-- An element that is related to the next belongs to its stretch. -/
theorem splitBy_cons_of_rel {a b : α} {l stretch : List α} {rest : List (List α)}
    (h : r a b = true) (hsplit : (b :: l).splitBy r = (b :: stretch) :: rest) :
    (a :: b :: l).splitBy r = (a :: b :: stretch) :: rest := by
  obtain ⟨hflatten, hnil, hchain, houter⟩ := List.splitBy_eq_iff.mp hsplit
  refine List.splitBy_eq_iff.mpr ⟨?_, ?_, ?_, ?_⟩
  · rw [hflatten]
    rfl
  · simpa using hnil
  · rw [List.forall_mem_cons] at hchain ⊢
    exact ⟨List.isChain_cons_cons.mpr ⟨h, hchain.1⟩, hchain.2⟩
  · rw [List.isChain_cons] at houter ⊢
    refine ⟨fun next hnext => ?_, houter.2⟩
    obtain ⟨_, hne, hlast⟩ := houter.1 next hnext
    exact ⟨List.cons_ne_nil _ _, hne, by simpa using hlast⟩

end Split

namespace Node

/-! ### Laws of joining -/

theorem mergeTexts_eq_self {ns : List Node} (h : Separated ns) : mergeTexts ns = ns := by
  induction ns with
  | nil => rfl
  | cons n ns ih =>
      rw [mergeTexts, ih h.tail]
      cases ns with
      | nil => rfl
      | cons m ns =>
          have hjoin : n.joinable m = false := h.rel
          rw [mergeCons, hjoin, if_neg Bool.false_ne_true]

theorem mergeTexts_eq_self_iff {ns : List Node} : mergeTexts ns = ns ↔ Separated ns :=
  ⟨fun h => h ▸ separated_mergeTexts ns, mergeTexts_eq_self⟩

theorem mergeTexts_mergeTexts (ns : List Node) : mergeTexts (mergeTexts ns) = mergeTexts ns :=
  mergeTexts_eq_self (separated_mergeTexts ns)

/-- A text that is joined is met as before. -/
theorem joinable_join_right (a b c : Node) : a.joinable (b.join c) = a.joinable b := rfl

theorem join_join (a b c : Node) : (a.join b).join c = a.join (b.join c) := by
  simp [join, ownText, String.append_assoc]

/-- Two texts that are joined meet what is behind them as they would one after the other. -/
theorem mergeCons_join {n m : Node} (h : n.joinable m = true) (ns : List Node) :
    mergeCons (n.join m) ns = mergeCons n (mergeCons m ns) := by
  cases ns with
  | nil => simp [mergeCons, h]
  | cons k ns =>
      have hjoin : (n.join m).joinable k = m.joinable k := by
        rw [joinable_join, joinable_congr h]
      rw [mergeCons, mergeCons, hjoin]
      cases hk : m.joinable k with
      | false => simp [mergeCons, h]
      | true => simp [mergeCons, joinable_join_right, h, join_join]

theorem mergeTexts_mergeCons_append (n : Node) (ms ns : List Node) :
    mergeTexts (mergeCons n ms ++ ns) = mergeCons n (mergeTexts (ms ++ ns)) := by
  cases ms with
  | nil => rfl
  | cons m ms =>
      rw [mergeCons]
      split
      · next h =>
        rw [List.cons_append, mergeTexts, mergeCons_join h]
        rfl
      · rfl

theorem mergeTexts_append_left (xs ys : List Node) :
    mergeTexts (mergeTexts xs ++ ys) = mergeTexts (xs ++ ys) := by
  induction xs with
  | nil => rfl
  | cons x xs ih => rw [mergeTexts, mergeTexts_mergeCons_append, ih, List.cons_append, mergeTexts]

theorem mergeTexts_append_right (xs ys : List Node) :
    mergeTexts (xs ++ mergeTexts ys) = mergeTexts (xs ++ ys) := by
  induction xs with
  | nil => exact mergeTexts_mergeTexts ys
  | cons x xs ih => rw [List.cons_append, mergeTexts, ih, List.cons_append, mergeTexts]

/-- A list may be joined in two parts that are put together and joined again. -/
theorem mergeTexts_append (xs ys : List Node) :
    mergeTexts (xs ++ ys) = mergeTexts (mergeTexts xs ++ mergeTexts ys) := by
  rw [mergeTexts_append_right, mergeTexts_append_left]

/-! ### Joining from the left -/

/-- Puts a node behind joined nodes: its text goes to the last of them when the two are joinable. -/
def mergeSnoc (merged : List Node) (n : Node) : List Node :=
  match merged.getLast? with
  | none => [n]
  | some last => if last.joinable n then merged.dropLast ++ [last.join n] else merged ++ [n]

theorem mergeTexts_concat {merged : List Node} (h : Separated merged) (n : Node) :
    mergeTexts (merged ++ [n]) = mergeSnoc merged n := by
  rcases List.eq_nil_or_concat' merged with rfl | ⟨front, last, rfl⟩
  · rfl
  · have hsnoc : mergeSnoc (front ++ [last]) n =
        if last.joinable n then front ++ [last.join n] else front ++ [last] ++ [n] := by
      rw [mergeSnoc, List.getLast?_concat, List.dropLast_concat]
    rw [hsnoc]
    cases hjoin : last.joinable n with
    | false =>
        rw [if_neg Bool.false_ne_true]
        refine mergeTexts_eq_self (List.isChain_append.mpr ⟨h, .singleton n, ?_⟩)
        simpa using hjoin
    | true =>
        have hpair : mergeTexts ([last] ++ [n]) = [last.join n] := by
          simp [mergeTexts, mergeCons, hjoin]
        have hfront : Separated (front ++ [last.join n]) := by
          rw [Separated, List.isChain_append] at h ⊢
          exact ⟨h.1, .singleton _, by simpa [joinable_join_right] using h.2.2⟩
        rw [if_pos rfl, List.append_assoc, ← mergeTexts_append_right, hpair,
          mergeTexts_eq_self hfront]

theorem mergeTexts_append_eq_foldl {merged : List Node} (h : Separated merged) (ns : List Node) :
    mergeTexts (merged ++ ns) = ns.foldl mergeSnoc merged := by
  induction ns generalizing merged with
  | nil => rw [List.append_nil, mergeTexts_eq_self h, List.foldl_nil]
  | cons n ns ih =>
      have hstep := mergeTexts_concat h n
      have hnext : Separated (mergeSnoc merged n) := hstep ▸ separated_mergeTexts _
      rw [List.foldl_cons, ← ih hnext, ← hstep, mergeTexts_append_left, List.append_assoc,
        List.singleton_append]

/-- One pass from the left joins the same nodes. -/
theorem mergeTexts_eq_foldl (ns : List Node) : mergeTexts ns = ns.foldl mergeSnoc [] :=
  mergeTexts_append_eq_foldl .nil ns

/-! ### Stretches -/

/-- What a stretch of neighbours is joined to: a node alone stays, and texts with the same marks
become the first of them with the text of all. -/
inductive Joins : List Node → Node → Prop where
  | alone (n : Node) : Joins [n] n
  | texts {n m : Node} {rest : List Node} (h : ∀ x ∈ m :: rest, n.joinable x = true) :
      Joins (n :: m :: rest) { n with text := some (String.join ((n :: m :: rest).map ownText)) }

namespace Joins

variable {n m : Node} {stretch : List Node}

/-- A stretch has the marks of its first node. -/
theorem joinable_eq (h : Joins (m :: stretch) n) (x : Node) : x.joinable n = x.joinable m := by
  cases h <;> rfl

theorem cons {x : Node} (h : Joins (m :: stretch) n) (hx : x.joinable m = true) :
    Joins (x :: m :: stretch) (x.join n) := by
  cases h with
  | alone =>
      have htexts := Joins.texts (List.forall_mem_singleton.mpr hx)
      simpa [join, String.join] using htexts
  | @texts _ k rest hrest =>
      have hall : ∀ y ∈ m :: k :: rest, x.joinable y = true := by
        refine List.forall_mem_cons.mpr ⟨hx, fun y hy => ?_⟩
        rw [joinable_congr hx]
        exact hrest y hy
      have htexts := Joins.texts hall
      rwa [List.map_cons, String.join_cons] at htexts

/-- The nodes of a stretch that are no texts stay. -/
theorem filter_not_isText (h : Joins stretch n) :
    [n].filter (fun x => !x.isText) = stretch.filter fun x => !x.isText := by
  cases h with
  | alone => rfl
  | @texts n m rest h =>
      have htexts (x : Node) (hx : x ∈ m :: rest) : n.isText = true ∧ x.isText = true :=
        (joinable_iff.mp (h x hx)).1
      have hn : (!n.isText) = false := by rw [(htexts m List.mem_cons_self).1, Bool.not_true]
      have hstretch : (n :: m :: rest).filter (fun x => !x.isText) = [] := by
        rw [List.filter_eq_nil_iff, List.forall_mem_cons]
        exact ⟨by simp [hn], fun x hx => by simp [(htexts x hx).2]⟩
      rw [hstretch]
      exact List.filter_cons_of_neg (ne_true_of_eq_false hn)

end Joins

/-- Joining goes stretch by stretch. -/
theorem forall₂_joins_mergeTexts (ns : List Node) :
    List.Forall₂ Joins (ns.splitBy joinable) (mergeTexts ns) := by
  induction ns with
  | nil => exact .nil
  | cons n ns ih =>
      cases ns with
      | nil => exact .cons (.alone n) .nil
      | cons m ns =>
          obtain ⟨stretch, rest, hsplit⟩ := exists_splitBy_cons (r := joinable) m ns
          rw [mergeTexts]
          rw [hsplit] at ih
          cases hmerge : mergeTexts (m :: ns) with
          | nil => rw [hmerge] at ih; cases ih
          | cons first merged =>
              rw [hmerge, List.forall₂_cons] at ih
              rw [mergeCons, ih.1.joinable_eq]
              cases hjoin : n.joinable m with
              | true =>
                  rw [splitBy_cons_of_rel hjoin hsplit, if_pos rfl]
                  exact .cons (ih.1.cons hjoin) ih.2
              | false =>
                  rw [splitBy_cons_of_not_rel hjoin, hsplit, if_neg Bool.false_ne_true]
                  exact .cons (.alone n) (.cons ih.1 ih.2)

/-- The nodes that are no texts stay, in their order. -/
theorem filter_not_isText_mergeTexts (ns : List Node) :
    (mergeTexts ns).filter (fun n => !n.isText) = ns.filter fun n => !n.isText := by
  have hjoins := forall₂_joins_mergeTexts ns
  conv => rhs; rw [← List.flatten_splitBy joinable ns]
  generalize ns.splitBy joinable = stretches, mergeTexts ns = merged at hjoins ⊢
  induction hjoins with
  | nil => rfl
  | @cons stretch n stretches merged h _ ih =>
      rw [← List.singleton_append, List.filter_append, h.filter_not_isText, ih,
        List.flatten_cons, List.filter_append]

end Node

end MarkdownAdf
