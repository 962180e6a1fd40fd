import MarkdownAdf.Text.Digit
import MarkdownAdf.Text.Quoted
import MarkdownAdf.Value.Basic

/-!
# The text of a value

`Value.quoted` is the form in which messages show a value, with texts between quotes; `Value.text`
shows a text as it is and everything else in its quoted form. Both are made only of values that can
be shown (`Value.isShowable`): an integer with more than `Text.maxDigits` digits has no text.
-/

namespace MarkdownAdf.Value

mutual

/-- The form of a value in messages. -/
def quoted : Value → String
  | .null => "None"
  | .bool b => if b then "True" else "False"
  | .int n => toString n
  | .float x => x.text
  | .str s => Text.quoted s
  | .preset p => p.quoted
  | .foreign _ _ form _ => form
  | .list items => "[" ++ ", ".intercalate (quotedItems items) ++ "]"
  | .map entries => "\x7b" ++ ", ".intercalate (quotedEntries entries) ++ "\x7d"

def quotedItems : List Value → List String
  | [] => []
  | v :: rest => quoted v :: quotedItems rest

def quotedEntries : List (Value × Value) → List String
  | [] => []
  | (k, v) :: rest => (quoted k ++ ": " ++ quoted v) :: quotedEntries rest

end

mutual

/-- Whether a value can be turned into text: no integer in it has too many digits. -/
def isShowable : Value → Bool
  | .int n => (Nat.toDigits 10 n.natAbs).length ≤ Text.maxDigits
  | .foreign _ _ _ showable => showable
  | .list items => areShowable items
  | .map entries => entriesShowable entries
  | _ => true

def areShowable : List Value → Bool
  | [] => true
  | v :: rest => isShowable v && areShowable rest

def entriesShowable : List (Value × Value) → Bool
  | [] => true
  | (k, v) :: rest => isShowable k && isShowable v && entriesShowable rest

end

theorem isShowable_int_iff {n : Int} :
    (Value.int n).isShowable = true ↔ n.natAbs < Nat.pow 10 Text.maxDigits := by
  have hpositive : 0 < Text.maxDigits := by decide
  rw [isShowable, decide_eq_true_eq]
  generalize Text.maxDigits = digits at hpositive
  exact Nat.length_toDigits_le_iff (by decide) hpositive

theorem isShowable_list_iff {items : List Value} :
    (Value.list items).isShowable = true ↔ ∀ v ∈ items, v.isShowable = true := by
  rw [isShowable]
  induction items with
  | nil => simp [areShowable]
  | cons v items ih => simp [areShowable, ih]

theorem isShowable_map_iff {entries : List (Value × Value)} :
    (Value.map entries).isShowable = true ↔
      ∀ e ∈ entries, e.1.isShowable = true ∧ e.2.isShowable = true := by
  rw [isShowable]
  induction entries with
  | nil => simp [entriesShowable]
  | cons e entries ih => simp [entriesShowable, ih]

/-- The text of a value. -/
def text : Value → String
  | .str s => s
  | .preset p => p.text
  | .foreign _ text _ _ => text
  | v => v.quoted

end MarkdownAdf.Value
