/-!
# Places in a YAML text

A cursor is the text that is still to be read, with the line and column of its first character. Ends
of line are single characters here: the text is read with its line ends unified.
-/

namespace MarkdownAdf.Yaml

/-- The characters that end a line. -/
def isBreak (c : Char) : Bool := c = '\n' || c = '\u0085' || c = '\u2028' || c = '\u2029'

/-- The end of the text or of a line. -/
def endsLine : Option Char → Bool
  | none => true
  | some c => isBreak c

/-- A space, or the end of the text or of a line. -/
def endsWord (c : Option Char) : Bool := endsLine c || c = some ' '

/-- A space or tab, or the end of the text or of a line. -/
def isGap (c : Option Char) : Bool := endsWord c || c = some '\t'

/-- The characters that a text may hold. -/
def isAllowed (c : Char) : Bool :=
  let n := c.toNat
  n == 0x09 || n == 0x0A || n == 0x0D || (0x20 ≤ n && n ≤ 0x7E) || n == 0x85 ||
    (0xA0 ≤ n && n ≤ 0xD7FF) || (0xE000 ≤ n && n ≤ 0xFFFD) || 0x10000 ≤ n

/-- The characters of the names of anchors, handles and directives. -/
def isNameChar (c : Char) : Bool := c.isAlphanum || c = '-' || c = '_'

/-- The brackets and the comma, which have a meaning inside brackets. -/
def isFlowMark (c : Char) : Bool := c = ',' || c = '[' || c = ']' || c = '\x7b' || c = '\x7d'

structure Cursor where
  rest : List Char
  index : Nat := 0
  line : Nat := 0
  column : Nat := 0
  deriving DecidableEq, Repr

namespace Cursor

def peek? (c : Cursor) : Option Char := c.rest.head?

def peekAt? (c : Cursor) (k : Nat) : Option Char := c.rest[k]?

/-- The cursor behind the next character. A byte order mark takes no column. -/
def next (c : Cursor) : Cursor :=
  match c.rest with
  | [] => c
  | x :: rest =>
    if isBreak x then ⟨rest, c.index + 1, c.line + 1, 0⟩
    else ⟨rest, c.index + 1, c.line, if x = '\ufeff' then c.column else c.column + 1⟩

/-- The cursor behind `n` characters. -/
def skip (c : Cursor) : Nat → Cursor
  | 0 => c
  | n + 1 => c.next.skip n

/-- The characters from here that belong to a class. -/
def span (c : Cursor) (p : Char → Bool) : List Char := c.rest.takeWhile p

/-- The cursor behind the characters of a class. -/
def skipWhile (c : Cursor) (p : Char → Bool) : Cursor := c.skip (c.span p).length

def skipSpaces (c : Cursor) : Cursor := c.skipWhile (· = ' ')

/-- The cursor at the end of the line. -/
def skipToBreak (c : Cursor) : Cursor := c.skipWhile fun x => !isBreak x

/-- Reads an end of line. All but the line and paragraph separators are read as a line feed. -/
def readBreak? (c : Cursor) : Option (Char × Cursor) :=
  match c.peek? with
  | some x =>
    if isBreak x then some (if x = '\u0085' then '\n' else x, c.next) else none
  | none => none

/-- Whether three dashes or three dots stand here on their own. -/
def atDocumentMark (c : Cursor) : Bool :=
  let mark := c.rest.take 3
  (mark == ['-', '-', '-'] || mark == ['.', '.', '.']) && isGap (c.peekAt? 3)

/-- Skips spaces as long as they stand left of a column. -/
def skipIndent (c : Cursor) (column : Nat) : Cursor :=
  c.skip (min (c.span (· = ' ')).length (column - c.column))

end Cursor

end MarkdownAdf.Yaml
