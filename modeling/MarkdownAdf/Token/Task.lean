import MarkdownAdf.Token.Basic

/-!
# Task items

A list item is a task item when its opening token carries the class `task-list-item`, or when one of
its own inline tokens holds a checkbox. Inline tokens of items nested in it are not its own.
-/

namespace MarkdownAdf

namespace Token

/-- The class that marks a task item. -/
def taskClass : String := "task-list-item"

/-- Whether the class attribute has the task class among its words. -/
def hasTaskClass (t : Token) : Bool :=
  match t.attrs.text? "class" with
  | some s => (Text.words s).contains taskClass
  | none => false

/-- Whether a checkbox is among the inline tokens. -/
def hasCheckbox (t : Token) : Bool := t.inlines.any Inline.isCheckbox

/-- Whether an own inline token of an item holds a checkbox, in the tokens after its opening;
`depth` counts the nested items that are open. -/
def itemHasCheckbox (depth : Nat) : List Token → Bool
  | [] => false
  | t :: rest =>
    match t.kind, depth with
    | .itemOpen, _ => itemHasCheckbox (depth + 1) rest
    | .itemClose, 0 => false
    | .itemClose, d + 1 => itemHasCheckbox d rest
    | .inline, 0 => t.hasCheckbox || itemHasCheckbox 0 rest
    | _, _ => itemHasCheckbox depth rest

/-- Whether the item opened by `t` is a task item, given the tokens after it. -/
def opensTask (t : Token) (rest : List Token) : Bool := t.hasTaskClass || itemHasCheckbox 0 rest

end Token

end MarkdownAdf
