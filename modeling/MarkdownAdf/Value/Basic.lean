import MarkdownAdf.Preset
import MarkdownAdf.Number.Shortest

/-!
# Dynamic values

Attributes of tokens and nodes and the settings of an option file hold values of any shape. Two
values are the same (`Value.same`) when they differ only in the order of map entries or in the way a
number is kept: `true`, `1` and `1.0` are one number.
-/

namespace MarkdownAdf

inductive Value where
  | null
  | bool (b : Bool)
  | int (n : Int)
  | float (x : Binary64)
  | str (s : String)
  | preset (p : Preset)
  /-- a value of another type, such as a date: the name of its type, its text, its quoted form, and
  whether these can be shown, which they cannot where an integer in it is too long -/
  | foreign (type text quoted : String) (isShowable : Bool)
  | list (items : List Value)
  | map (entries : List (Value × Value))
  deriving Inhabited

namespace Value

mutual

def beq : Value → Value → Bool
  | .null, .null => true
  | .bool a, .bool b => a == b
  | .int a, .int b => a == b
  | .float a, .float b => a == b
  | .str a, .str b => a == b
  | .preset a, .preset b => a == b
  | .foreign t a q s, .foreign u b r s' => t == u && a == b && q == r && s == s'
  | .list a, .list b => beqList a b
  | .map a, .map b => beqEntries a b
  | _, _ => false

def beqList : List Value → List Value → Bool
  | [], [] => true
  | a :: as, b :: bs => beq a b && beqList as bs
  | _, _ => false

def beqEntries : List (Value × Value) → List (Value × Value) → Bool
  | [], [] => true
  | (k, a) :: as, (l, b) :: bs => beq k l && beq a b && beqEntries as bs
  | _, _ => false

end

mutual

theorem beq_iff : ∀ a b : Value, beq a b = true ↔ a = b
  | .null, b => by cases b <;> simp [beq]
  | .bool _, b => by cases b <;> simp [beq]
  | .int _, b => by cases b <;> simp [beq]
  | .float _, b => by cases b <;> simp [beq]
  | .str _, b => by cases b <;> simp [beq]
  | .preset _, b => by cases b <;> simp [beq]
  | .foreign .., b => by cases b <;> simp [beq, and_assoc]
  | .list as, b => by cases b <;> simp [beq, beqList_iff as]
  | .map as, b => by cases b <;> simp [beq, beqEntries_iff as]

theorem beqList_iff : ∀ as bs : List Value, beqList as bs = true ↔ as = bs
  | [], bs => by cases bs <;> simp [beqList]
  | a :: as, bs => by cases bs <;> simp [beqList, beq_iff a, beqList_iff as]

theorem beqEntries_iff : ∀ as bs : List (Value × Value), beqEntries as bs = true ↔ as = bs
  | [], bs => by cases bs <;> simp [beqEntries]
  | (k, a) :: as, bs => by
    cases bs with
    | nil => simp [beqEntries]
    | cons b bs => simp [beqEntries, beq_iff k, beq_iff a, beqEntries_iff as, Prod.ext_iff]

end

instance : DecidableEq Value := fun a b => decidable_of_iff _ (beq_iff a b)

/-- The name of a value's type in messages. -/
def typeName : Value → String
  | .null => "NoneType"
  | .bool _ => "bool"
  | .int _ => "int"
  | .float _ => "float"
  | .str _ => "str"
  | .preset _ => "ContextPreset"
  | .foreign type _ _ _ => type
  | .list _ => "list"
  | .map _ => "dict"

/-- Whether a value counts as present: zero, the empty text and the empty collections do not. -/
def isPresent : Value → Bool
  | .null => false
  | .bool b => b
  | .int n => n != 0
  | .float x => x.significand != 0 || x.isInfinite || x.isNaN
  | .str s => s != ""
  | .preset _ => true
  | .foreign .. => true
  | .list items => !items.isEmpty
  | .map entries => !entries.isEmpty

end Value

end MarkdownAdf
