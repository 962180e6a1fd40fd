import MarkdownAdf.Value.Printer

/-!
# Sameness of values

Every value has a canonical form: numbers that are whole become integers, and the entries of a map
are sorted by the quoted form of their keys. Values are the same when their canonical forms are
equal, so sameness is an equivalence.
-/

namespace MarkdownAdf.Value

/-- Sorts entries by the quoted form of their keys. -/
def sortEntries (entries : List (Value × Value)) : List (Value × Value) :=
  entries.mergeSort fun a b => decide (a.1.quoted ≤ b.1.quoted)

mutual

def canonical : Value → Value
  | .bool b => .int (if b then 1 else 0)
  | .float x =>
    match x.integer? with
    | some n => .int n
    | none => .float x
  | .list items => .list (canonicalItems items)
  | .map entries => .map (sortEntries (canonicalEntries entries))
  | v => v

def canonicalItems : List Value → List Value
  | [] => []
  | v :: rest => canonical v :: canonicalItems rest

def canonicalEntries : List (Value × Value) → List (Value × Value)
  | [] => []
  | (k, v) :: rest => (canonical k, canonical v) :: canonicalEntries rest

end

/-- Equality of values as messages and merges see it. -/
def same (a b : Value) : Bool := decide (a.canonical = b.canonical)

theorem same_iff {a b : Value} : a.same b = true ↔ a.canonical = b.canonical := by
  simp [same]

theorem same_refl (a : Value) : a.same a = true := by simp [same]

end MarkdownAdf.Value
