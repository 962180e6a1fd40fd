import Mathlib.Data.List.Chain
import MarkdownAdf.Resolve.Block

/-!
# Built nodes

The kinds of the nodes that are built, and what putting them together keeps: content that must not
be empty, and the runs of a list.
-/

namespace MarkdownAdf

namespace Node

@[simp]
theorem kind_container (k : NodeKind) (content : List Node) : (container k content).kind = k :=
  NodeKind.ofName_name k

@[simp]
theorem kind_cell (header : Bool) (content : List Node) :
    (cell header content).kind = if header then .tableHeader else .tableCell := by
  cases header <;> rfl

@[simp]
theorem content_cell (header : Bool) (content : List Node) :
    (cell header content).content = [paragraph content] := by
  cases header <;> rfl

@[simp]
theorem content_listOf (ordered : Bool) (run : Bool × List Node) :
    (listOf ordered run).content = run.2 := by
  rw [listOf]
  split
  · rfl
  · split <;> rfl

theorem orParagraph_ne_nil (ns : List Node) : orParagraph ns ≠ [] := by
  cases ns <;> simp [orParagraph]

/-- What holds of an empty paragraph and of all given nodes holds of content that must not be
empty. -/
theorem forall_mem_orParagraph {P : Node → Prop} {ns : List Node} (hparagraph : P paragraph)
    (h : ∀ n ∈ ns, P n) : ∀ n ∈ orParagraph ns, P n := by
  rw [orParagraph]
  split
  · simpa using hparagraph
  · exact h

end Node

/-! ### Runs of a list -/

section Runs

variable {α : Type}

theorem flagRuns_ne_nil {as : List (Bool × α)} : ∀ run ∈ flagRuns as, run.2 ≠ [] := by
  induction as with
  | nil => simp [flagRuns]
  | cons a as ih =>
      rw [flagRuns]
      split
      · next next run more hrest =>
        rw [hrest, List.forall_mem_cons] at ih
        split
        · simpa using ih.2
        · simpa using ih
      · simp

/-- The runs hold all flagged values in their order. -/
theorem flatMap_flagRuns (as : List (Bool × α)) :
    ((flagRuns as).flatMap fun run => run.2.map fun a => (run.1, a)) = as := by
  induction as with
  | nil => rfl
  | cons a as ih =>
      obtain ⟨flag, a⟩ := a
      rw [flagRuns]
      split
      · next next run more hrest =>
        rw [hrest] at ih
        split
        · next hflag =>
          subst hflag
          rw [← ih]
          rfl
        · rw [← ih]
          rfl
      · next hrest =>
        rw [hrest] at ih
        rw [← ih]
        rfl

theorem flatMap_flagRuns_snd (as : List (Bool × α)) :
    (flagRuns as).flatMap Prod.snd = as.map Prod.snd := by
  conv => rhs; rw [← flatMap_flagRuns as]
  simp [List.map_flatMap, Function.comp_def]

/-- Where the runs are cut depends on the flags alone. -/
theorem flagRuns_map {β : Type} (f : α → β) (as : List (Bool × α)) :
    flagRuns (as.map fun a => (a.1, f a.2)) =
      (flagRuns as).map fun run => (run.1, run.2.map f) := by
  induction as with
  | nil => rfl
  | cons a as ih =>
      obtain ⟨flag, a⟩ := a
      rw [List.map_cons, flagRuns, flagRuns, ih]
      cases flagRuns as with
      | nil => rfl
      | cons run more =>
          by_cases hflag : flag = run.1
          · simp [hflag]
          · simp [hflag]

theorem mem_of_mem_flagRuns {as : List (Bool × α)} {run : Bool × List α} {a : α}
    (hrun : run ∈ flagRuns as) (ha : a ∈ run.2) : (run.1, a) ∈ as := by
  rw [← flatMap_flagRuns as]
  exact List.mem_flatMap.mpr ⟨run, hrun, List.mem_map_of_mem ha⟩

/-- The first run starts with the first value. -/
theorem exists_flagRuns_cons (a : Bool × α) (as : List (Bool × α)) :
    ∃ run more, flagRuns (a :: as) = (a.1, a.2 :: run) :: more := by
  rw [flagRuns]
  split
  · next next run more hrest =>
    split
    · exact ⟨run, more, rfl⟩
    · exact ⟨[], (next, run) :: more, rfl⟩
  · exact ⟨[], [], rfl⟩

/-- Neighbouring runs have different flags, so no run could be longer. -/
theorem isChain_flagRuns (as : List (Bool × α)) :
    (flagRuns as).IsChain fun run next => run.1 ≠ next.1 := by
  induction as with
  | nil => exact .nil
  | cons a as ih =>
      rw [flagRuns]
      split
      · next next run more hrest =>
        rw [hrest] at ih
        split
        · next hflag =>
          subst hflag
          cases more with
          | nil => exact .singleton _
          | cons other more => exact .cons_cons ih.rel ih.of_cons
        · next hflag => exact .cons_cons hflag ih
      · exact .singleton _

/-- Values of one flag are one run. -/
theorem flagRuns_of_forall_eq {flag : Bool} {as : List (Bool × α)} (h : ∀ a ∈ as, a.1 = flag) :
    flagRuns as = if as = [] then [] else [(flag, as.map Prod.snd)] := by
  induction as with
  | nil => rfl
  | cons a as ih =>
      rw [List.forall_mem_cons] at h
      rw [flagRuns, ih h.2]
      cases as <;> simp [h.1]

/-- How often neighbouring flags differ. -/
def flagChanges (flags : List Bool) : Nat :=
  (flags.zip flags.tail).countP fun pair => pair.1 ≠ pair.2

theorem flagChanges_cons_cons (a b : Bool) (flags : List Bool) :
    flagChanges (a :: b :: flags) = flagChanges (b :: flags) + if a = b then 0 else 1 := by
  by_cases h : a = b <;> simp [flagChanges, h]

theorem length_flagRuns (as : List (Bool × α)) :
    (flagRuns as).length = if as = [] then 0 else 1 + flagChanges (as.map Prod.fst) := by
  induction as with
  | nil => rfl
  | cons a as ih =>
      cases as with
      | nil => rfl
      | cons b as =>
          obtain ⟨run, more, hruns⟩ := exists_flagRuns_cons b as
          rw [hruns] at ih
          rw [flagRuns, hruns, List.map_cons, List.map_cons, flagChanges_cons_cons]
          by_cases hflag : a.1 = b.1 <;> simp [hflag] at ih ⊢ <;> omega

end Runs

end MarkdownAdf
