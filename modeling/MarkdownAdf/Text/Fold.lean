/-!
# Letter case in ASCII words

Words such as the names of presets are compared without regard to case. Of the characters outside
ASCII only the Kelvin sign has an ASCII letter as its lower case.
-/

namespace MarkdownAdf.Text

/-- The lower case of a character, as far as it is an ASCII letter; other characters stay. -/
def lowerAscii (c : Char) : Char := if c = '\u212a' then 'k' else c.toLower

/-- A text with its characters in lower case where that matters to an ASCII word. -/
def lowerWord (s : String) : String := String.ofList (s.toList.map lowerAscii)

/-- Drops a word from the front of the text, whatever the case of its letters; `word` is in lower
case. -/
def dropWord? : (word cs : List Char) → Option (List Char)
  | [], cs => some cs
  | _ :: _, [] => none
  | w :: word, c :: cs => if lowerAscii c = w then dropWord? word cs else none

end MarkdownAdf.Text
