import MarkdownAdf.Value.Same

/-!
# Attributes

The attributes of tokens, nodes and marks: named values, in the order in which they were written.
-/

namespace MarkdownAdf

abbrev Attributes := List (String × Value)

namespace Attributes

/-- The value of an attribute; an attribute that is not there reads as null. -/
def value (attrs : Attributes) (name : String) : Value := (attrs.lookup name).getD .null

/-- The text of an attribute, none when it is not there or null. -/
def text? (attrs : Attributes) (name : String) : Option String :=
  match attrs.value name with
  | .null => none
  | v => some v.text

/-- The attributes as one value. -/
def toValue (attrs : Attributes) : Value := .map (attrs.map fun a => (.str a.1, a.2))

/-- Whether two sets of attributes are the same, in any order. -/
def same (a b : Attributes) : Bool := a.toValue.same b.toValue

end Attributes

/-- A text that is there and not empty. -/
def nonempty? : Option String → Option String
  | some s => if s = "" then none else some s
  | none => none

end MarkdownAdf
