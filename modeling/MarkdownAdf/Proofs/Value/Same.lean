import Mathlib.Data.List.Perm.Basic
import MarkdownAdf.Value.Attributes

/-!
# Values that are the same

The canonical form of a map has the same entries as the map itself, each in canonical form, so maps
that are the same can be compared entry by entry.
-/

namespace MarkdownAdf

namespace Value

theorem canonicalItems_eq_map (items : List Value) :
    canonicalItems items = items.map canonical := by
  induction items with
  | nil => rfl
  | cons v items ih => rw [canonicalItems, ih, List.map_cons]

theorem canonicalEntries_eq_map (entries : List (Value × Value)) :
    canonicalEntries entries = entries.map fun e => (e.1.canonical, e.2.canonical) := by
  induction entries with
  | nil => rfl
  | cons e entries ih => rw [canonicalEntries, ih, List.map_cons]

theorem canonicalEntries_eq_self {entries : List (Value × Value)}
    (h : ∀ e ∈ entries, e.1.canonical = e.1 ∧ e.2.canonical = e.2) :
    canonicalEntries entries = entries := by
  rw [canonicalEntries_eq_map, List.map_congr_left fun e he => Prod.ext (h e he).1 (h e he).2]
  exact List.map_id entries

theorem canonicalEntries_append (as bs : List (Value × Value)) :
    canonicalEntries (as ++ bs) = canonicalEntries as ++ canonicalEntries bs := by
  rw [canonicalEntries_eq_map, canonicalEntries_eq_map, canonicalEntries_eq_map, List.map_append]

theorem perm_sortEntries (entries : List (Value × Value)) : (sortEntries entries).Perm entries :=
  List.mergeSort_perm entries fun a b => decide (a.1.quoted ≤ b.1.quoted)

/-- Sorting does not lose or invent entries. -/
theorem perm_of_sortEntries_eq {as bs : List (Value × Value)}
    (h : sortEntries as = sortEntries bs) : as.Perm bs :=
  (perm_sortEntries as).symm.trans ((List.Perm.of_eq h).trans (perm_sortEntries bs))

theorem sortEntries_eq_nil_iff {entries : List (Value × Value)} :
    sortEntries entries = [] ↔ entries = [] := by
  have hlength : (sortEntries entries).length = entries.length :=
    (perm_sortEntries entries).length_eq
  rw [← List.length_eq_zero_iff, hlength, List.length_eq_zero_iff]

end Value

/-- Only empty attributes have the canonical form of an empty map. -/
theorem Attributes.canonical_toValue_eq_iff {attrs : Attributes} :
    attrs.toValue.canonical = .map [] ↔ attrs = [] := by
  rw [toValue, Value.canonical, Value.map.injEq, Value.sortEntries_eq_nil_iff,
    Value.canonicalEntries_eq_map, List.map_eq_nil_iff, List.map_eq_nil_iff]

end MarkdownAdf
