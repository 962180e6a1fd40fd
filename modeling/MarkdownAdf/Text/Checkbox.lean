import MarkdownAdf.Text.Blank
import MarkdownAdf.Text.Fold

/-!
# Checkbox markup

Raw markup holds a checkbox when it says `type="checkbox"` or `type='checkbox'` anywhere, in any
letter case. The checkbox is checked when the word `checked` is followed by `=`, `>` or a blank.
-/

namespace MarkdownAdf.Text

def isQuoteMark (c : Char) : Bool := c = '"' || c = '\''

/-- Whether the text starts with the word `checkbox` between quote marks of either sort. -/
def startsQuotedCheckbox : List Char → Bool
  | q :: cs =>
    isQuoteMark q &&
      match dropWord? "checkbox".toList cs with
      | some (r :: _) => isQuoteMark r
      | _ => false
  | [] => false

/-- Whether a checkbox type starts here. -/
def startsCheckboxType (cs : List Char) : Bool :=
  match dropWord? "type=".toList cs with
  | some rest => startsQuotedCheckbox rest
  | none => false

/-- Whether a mark of being checked starts here. -/
def startsChecked (cs : List Char) : Bool :=
  match dropWord? "checked".toList cs with
  | some (c :: _) => c = '=' || c = '>' || isBlank c
  | _ => false

/-- Whether some tail of the text passes a test. -/
def anyTail (p : List Char → Bool) : List Char → Bool
  | [] => p []
  | c :: cs => p (c :: cs) || anyTail p cs

/-- What raw markup says about a checkbox. -/
inductive Checkbox where
  | absent
  | box (checked : Bool)
  deriving DecidableEq, Repr

namespace Checkbox

def ofMarkup (markup : String) : Checkbox :=
  if anyTail startsCheckboxType markup.toList then box (anyTail startsChecked markup.toList)
  else absent

def isPresent : Checkbox → Bool
  | absent => false
  | box _ => true

def isChecked : Checkbox → Bool
  | absent => false
  | box checked => checked

/-- The Markdown that writes a checkbox. -/
def source (checked : Bool) : String := if checked then "[x]" else "[ ]"

end Checkbox

end MarkdownAdf.Text
