import Mathlib.Data.List.TakeWhile
import MarkdownAdf.Files.Path

/-!
# The names of a path and of its directory

The names of a path are those of its directory followed by its last name; between them there may be
empty names, where slashes stand side by side.
-/

namespace MarkdownAdf.Files

/-! ### Names between slashes -/

theorem namesOf_append_slash (as bs : List Char) :
    namesOf (String.ofList (as ++ '/' :: bs)) =
      namesOf (String.ofList as) ++ namesOf (String.ofList bs) := by
  simp [namesOf, List.splitOn_append_cons_self]

theorem namesOf_of_not_mem {cs : List Char} (h : '/' ∉ cs) :
    namesOf (String.ofList cs) = [String.ofList cs] := by
  rw [namesOf, String.toList_ofList, List.splitOn_eq_singleton h, List.map_singleton]

/-- Every slash in front of a name stands behind an empty name. -/
theorem namesOf_slashes {cs : List Char} (h : '/' ∉ cs) (k : Nat) :
    namesOf (String.ofList (List.replicate k '/' ++ cs)) =
      List.replicate k "" ++ [String.ofList cs] := by
  induction k with
  | zero => exact namesOf_of_not_mem h
  | succ k ih =>
      have hempty : namesOf (String.ofList []) = [""] := namesOf_of_not_mem List.not_mem_nil
      rw [List.replicate_succ, List.cons_append, ← List.nil_append ('/' :: _),
        namesOf_append_slash, hempty, ih, List.replicate_succ]
      rfl

theorem namesOf_ne_nil (path : String) : namesOf path ≠ [] := by
  simp [namesOf, List.splitOn_ne_nil]

/-- The names of a path go beyond the names of its directory. -/
theorem not_prefix_dropLast (path : String) : ¬ namesOf path <+: (namesOf path).dropLast := by
  intro h
  have hlength := h.length_le
  have hpos := List.length_pos_iff.mpr (namesOf_ne_nil path)
  rw [List.length_dropLast] at hlength
  omega

theorem length_splitOn_le (cs : List Char) : (cs.splitOn '/').length ≤ cs.length + 1 := by
  induction cs with
  | nil => simp
  | cons c cs ih =>
      rw [List.splitOn_cons_eq_if_modifyHead]
      split <;> simp <;> omega

/-- A path has at most one name more than it has characters. -/
theorem length_namesOf_le (path : String) : (namesOf path).length ≤ path.length + 1 := by
  rw [namesOf, List.length_map, ← String.length_toList]
  exact length_splitOn_le path.toList

/-! ### The cut of a path -/

/-- A path is cut behind its last slash. -/
theorem splitLast_eq (path : String) :
    ∃ front last : List Char, path.toList = front ++ last ∧ '/' ∉ last ∧
      (front = [] ∨ ∃ before, front = before ++ ['/']) ∧
      splitLast path = (String.ofList (dropEndSlashes front), String.ofList last) := by
  refine ⟨(path.toList.reverse.dropWhile (· ≠ '/')).reverse,
    (path.toList.reverse.takeWhile (· ≠ '/')).reverse, ?_, ?_, ?_, rfl⟩
  · rw [← List.reverse_append, List.takeWhile_append_dropWhile, List.reverse_reverse]
  · intro hmem
    have hkept := List.mem_takeWhile_imp (List.mem_reverse.mp hmem)
    simp at hkept
  · cases h : path.toList.reverse.dropWhile (· ≠ '/') with
    | nil => exact .inl rfl
    | cons c rest =>
        have hhead := List.head?_dropWhile_not (· ≠ '/') path.toList.reverse
        rw [h] at hhead
        simp at hhead
        exact .inr ⟨rest.reverse, by rw [List.reverse_cons, hhead]⟩

/-- The slashes at the end of a text go, unless the text is nothing but slashes. -/
theorem dropEndSlashes_concat (cs : List Char) :
    (∃ k, cs = List.replicate k '/' ∧ dropEndSlashes (cs ++ ['/']) = cs ++ ['/']) ∨
      ∃ k, cs = dropEndSlashes (cs ++ ['/']) ++ List.replicate k '/' ∧
        dropEndSlashes (cs ++ ['/']) ≠ [] := by
  rw [dropEndSlashes]
  split
  · next hall => exact .inl ⟨cs.length, List.eq_replicate_of_mem (by simpa using hall), rfl⟩
  · next hall =>
    have hdrop : (cs ++ ['/']).reverse.dropWhile (· = '/') = cs.reverse.dropWhile (· = '/') := by
      simp
    have hslashes : ∀ c ∈ cs.reverse.takeWhile (· = '/'), c = '/' := fun c hc => by
      simpa using List.mem_takeWhile_imp hc
    rw [hdrop]
    refine .inr ⟨(cs.reverse.takeWhile (· = '/')).length, ?_, ?_⟩
    · rw [← List.reverse_replicate, ← List.eq_replicate_of_mem hslashes, ← List.reverse_append,
        List.takeWhile_append_dropWhile, List.reverse_reverse]
    · intro hnil
      rw [List.reverse_eq_nil_iff, List.dropWhile_eq_nil_iff] at hnil
      exact hall (by simpa using hnil)

/-- The names of a path beside its directory and its last name. Slashes at the end of the directory
leave empty names; a directory of slashes alone keeps them. -/
inductive IsCut (path : String) : String → String → Prop where
  | single {name} (hnames : namesOf path = [name]) : IsCut path "" name
  | below {directory name} (k : Nat) (hdirectory : directory ≠ "")
      (hnames : namesOf path = namesOf directory ++ List.replicate k "" ++ [name]) :
      IsCut path directory name
  | root {directory name} (k : Nat) (hdirectory : directory ≠ "")
      (habove : namesOf directory = List.replicate (k + 2) "")
      (hnames : namesOf path = List.replicate (k + 1) "" ++ [name]) : IsCut path directory name

theorem isCut_splitLast (path : String) : IsCut path (splitLast path).1 (splitLast path).2 := by
  obtain ⟨front, last, hpath, hlast, hfront, hcut⟩ := splitLast_eq path
  have hchars : path = String.ofList (front ++ last) := by rw [← hpath, String.ofList_toList]
  rw [hcut]
  obtain rfl | ⟨before, rfl⟩ := hfront
  · exact .single (by rw [hchars]; exact namesOf_of_not_mem hlast)
  · rw [List.append_assoc, List.singleton_append] at hchars
    obtain ⟨k, hslashes, hkept⟩ | ⟨k, hslashes, hne⟩ := dropEndSlashes_concat before
    · have habove := namesOf_slashes (List.not_mem_nil (a := '/')) (k + 1)
      have hnames := namesOf_slashes hlast (k + 1)
      rw [List.replicate_succ', List.append_assoc] at habove hnames
      rw [hkept, hslashes]
      refine .root k (by simp) ?_ (by rw [hchars, hslashes]; exact hnames)
      rw [List.replicate_succ']
      exact habove
    · refine .below k (by simpa using hne) ?_
      generalize dropEndSlashes (before ++ ['/']) = directory at hslashes
      have hswap : List.replicate k '/' ++ '/' :: last = '/' :: (List.replicate k '/' ++ last) := by
        rw [List.append_cons, ← List.replicate_succ', List.replicate_succ, List.cons_append]
      rw [hchars, hslashes, List.append_assoc, hswap, namesOf_append_slash,
        namesOf_slashes hlast, List.append_assoc]

end MarkdownAdf.Files
