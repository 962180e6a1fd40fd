/-!
# Blank characters

The blanks are the characters of bidirectional class B, S or WS together with the space separators.
Trimming and splitting into words read this one set.
-/

namespace MarkdownAdf.Text

/-- The white space that trimming removes; the zero width space and the byte order mark are not in
it. -/
def isBlank (c : Char) : Bool :=
  let n := c.toNat
  (0x09 ≤ n && n ≤ 0x0D) || (0x1C ≤ n && n ≤ 0x20) || n == 0x85 || n == 0xA0 || n == 0x1680 ||
    (0x2000 ≤ n && n ≤ 0x200A) || n == 0x2028 || n == 0x2029 || n == 0x202F || n == 0x205F ||
    n == 0x3000

/-- The characters of Unicode category Z: spaces, and the separators of lines and of paragraphs. -/
def isSeparator (c : Char) : Bool := isBlank c && 0x20 ≤ c.toNat && c ≠ '\u0085'

/-- Removes leading and trailing characters of a class from a list of characters. -/
def stripList (p : Char → Bool) (cs : List Char) : List Char :=
  ((cs.dropWhile p).reverse.dropWhile p).reverse

/-- The text without its leading blanks. -/
def trimStart (s : String) : String := String.ofList (s.toList.dropWhile isBlank)

/-- The text without its trailing blanks. -/
def trimEnd (s : String) : String := String.ofList (s.toList.reverse.dropWhile isBlank).reverse

/-- The text without its leading and trailing blanks. -/
def trim (s : String) : String := String.ofList (stripList isBlank s.toList)

/-- A text is blank when every character of it is; the empty text is blank. -/
def isBlankText (s : String) : Bool := s.toList.all isBlank

/-- Cuts a list of characters at its blanks; `word` is the word in progress, read backwards. -/
def wordsOf (word : List Char) : List Char → List (List Char)
  | [] => if word.isEmpty then [] else [word.reverse]
  | c :: rest =>
    if isBlank c then
      if word.isEmpty then wordsOf [] rest else word.reverse :: wordsOf [] rest
    else wordsOf (c :: word) rest

/-- The maximal stretches of characters that are not blank, in order. -/
def words (s : String) : List String := (wordsOf [] s.toList).map String.ofList

end MarkdownAdf.Text
