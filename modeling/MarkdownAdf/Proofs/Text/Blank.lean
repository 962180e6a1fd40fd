import Mathlib.Data.List.TakeWhile
import MarkdownAdf.Text.Blank

/-!
# What trimming leaves

A row of characters that is not all of one class has a stretch between its first and its last
character outside the class. Trimming leaves that stretch and takes the rest.
-/

namespace MarkdownAdf.Text

variable {p q : Char → Bool} {cs before after : List Char}

/-- Whether a row of characters starts and ends outside a class. -/
structure IsStripped (p : Char → Bool) (cs : List Char) : Prop where
  ne_nil : cs ≠ []
  head : ∀ c ∈ cs.head?, p c = false
  last : ∀ c ∈ cs.getLast?, p c = false

theorem IsStripped.mono (h : IsStripped p cs) (hclass : ∀ c, q c = true → p c = true) :
    IsStripped q cs :=
  ⟨h.ne_nil, fun c hc => eq_false_of_ne_true fun hq => by simpa [hclass c hq] using h.head c hc,
    fun c hc => eq_false_of_ne_true fun hq => by simpa [hclass c hq] using h.last c hc⟩

/-- Characters of the class around a stretch go. -/
theorem stripList_append (hbefore : ∀ c ∈ before, p c = true) (hafter : ∀ c ∈ after, p c = true)
    (h : IsStripped p cs) : stripList p (before ++ cs ++ after) = cs := by
  have hdrop {ds rest : List Char} (hds : ∀ c ∈ ds, p c = true)
      (hrest : ∀ c ∈ rest.head?, p c = false) : (ds ++ rest).dropWhile p = rest := by
    rw [List.dropWhile_append_of_pos hds]
    cases rest with
    | nil => rfl
    | cons c rest => exact List.dropWhile_cons_of_neg (by simpa using hrest c rfl)
  have hhead : ∀ c ∈ (cs ++ after).head?, p c = false := by
    obtain ⟨c, rest, rfl⟩ := List.exists_cons_of_ne_nil h.ne_nil
    exact h.head
  have hlast : ∀ c ∈ cs.reverse.head?, p c = false := by
    rw [List.head?_reverse]
    exact h.last
  rw [stripList, List.append_assoc, hdrop hbefore hhead, List.reverse_append,
    hdrop (by simpa using hafter) hlast, List.reverse_reverse]

theorem stripList_of_isStripped (h : IsStripped p cs) : stripList p cs = cs := by
  have happend := stripList_append (List.forall_mem_nil _) (List.forall_mem_nil _) h
  rwa [List.nil_append, List.append_nil] at happend

theorem head?_dropWhile (p : Char → Bool) (cs : List Char) :
    ∀ c ∈ (cs.dropWhile p).head?, p c = false := by
  intro c hc
  have hnot := List.head?_dropWhile_not p cs
  rw [Option.mem_def.mp hc] at hnot
  exact hnot

/-- What stands around the stretch is of the class. -/
theorem exists_stripList (hne : ¬ ∀ c ∈ cs, p c = true) :
    ∃ before after, cs = before ++ stripList p cs ++ after ∧ (∀ c ∈ before, p c = true) ∧
      (∀ c ∈ after, p c = true) ∧ IsStripped p (stripList p cs) := by
  have hmid : cs.dropWhile p ≠ [] := mt List.dropWhile_eq_nil_iff.mp hne
  obtain ⟨c, rest, hrest⟩ := List.exists_cons_of_ne_nil hmid
  have hc : p c = false := head?_dropWhile p cs c (by rw [hrest]; rfl)
  have hcut : cs.dropWhile p =
      stripList p cs ++ ((cs.dropWhile p).reverse.takeWhile p).reverse := by
    rw [stripList, ← List.reverse_append, List.takeWhile_append_dropWhile, List.reverse_reverse]
  have hne : stripList p cs ≠ [] := by
    intro hnil
    rw [stripList, List.reverse_eq_nil_iff, List.dropWhile_eq_nil_iff] at hnil
    simpa [hc] using hnil c (by rw [hrest]; simp)
  refine ⟨cs.takeWhile p, ((cs.dropWhile p).reverse.takeWhile p).reverse, ?_,
    fun c => List.mem_takeWhile_imp, fun c hc => ?_, hne, ?_, ?_⟩
  · rw [List.append_assoc, ← hcut, List.takeWhile_append_dropWhile]
  · exact List.mem_takeWhile_imp (List.mem_reverse.mp hc)
  · intro d hd
    refine head?_dropWhile p cs d ?_
    rw [hcut, List.head?_append, Option.mem_def.mp hd]
    rfl
  · rw [stripList, List.getLast?_reverse]
    exact head?_dropWhile p _

end MarkdownAdf.Text
