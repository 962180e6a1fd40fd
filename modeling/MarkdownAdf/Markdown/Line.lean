import MarkdownAdf.Text.Blank

/-!
# Lines of blocks

Blocks are read line by line. A container hides the part of a line that belongs to its own mark, so
a line is what is left of it, with the columns that the hidden part took. A tab goes to the next
column that is a multiple of four.
-/

namespace MarkdownAdf.Markdown

/-- A line within its container. `chars` is the line without its end, `shift` the number of
characters before its content, `indent` the column of the content, and `base` the number of columns
that containers took. A negative indent marks a line that only goes on with the paragraph before. -/
structure Line where
  chars : List Char
  shift : Nat
  indent : Int
  base : Nat := 0
  ended : Bool := true
  deriving DecidableEq, Repr

/-- The white space around the text of a block, which does not belong to it. -/
def isPadding (c : Char) : Bool := (0x09 ≤ c.toNat && c.toNat ≤ 0x0D) || Text.isSeparator c

/-- The text of a block without the white space around it. -/
def trimPadding (cs : List Char) : List Char := Text.stripList isPadding cs

/-- The blank characters within a line. -/
def isGap (c : Char) : Bool := c = ' ' || c = '\t'

/-- The column behind a blank that starts at `column`, when `base` columns lie before. -/
def columnBehind (base column : Nat) (c : Char) : Nat :=
  if c = '\t' then column + (4 - (column + base) % 4) else column + 1

/-- The column of the first character that is not blank. -/
def columnOf (base column : Nat) : List Char → Nat
  | [] => column
  | c :: cs => if isGap c then columnOf base (columnBehind base column c) cs else column

namespace Line

/-- A line of the source. -/
def ofChars (chars : List Char) (ended : Bool) : Line :=
  { chars, ended, shift := (chars.takeWhile isGap).length, indent := columnOf 0 0 chars }

/-- The line from its content on. -/
def body (l : Line) : List Char := l.chars.drop l.shift

def isEmpty (l : Line) : Bool := l.body.isEmpty

/-- Whether the content stands so far behind a column that it is code. -/
def isCode (l : Line) (column : Nat) : Bool := l.indent - column ≥ 4

/-- Drops columns from the front of a line, starting at `column`: blanks, and the characters before
its content, of which each is one column. A tab that reaches beyond is replaced by the spaces that
it has left. -/
def dropColumns (base columns shift column : Nat) : List Char → List Char
  | [] => List.replicate (column - columns) ' '
  | c :: cs =>
    if column < columns then
      if isGap c then dropColumns base columns (shift - 1) (columnBehind base column c) cs
      else if 0 < shift then dropColumns base columns (shift - 1) (column + 1) cs
      else c :: cs
    else List.replicate (column - columns) ' ' ++ c :: cs

/-- The text of a line from a column on. -/
def textFrom (l : Line) (column : Nat) : List Char := dropColumns l.base column l.shift 0 l.chars

end Line

/-- The lines of the source. A last line without an end counts only when it has content. -/
def linesOf (line : List Char) : List Char → List Line
  | [] => if line.all isGap then [] else [Line.ofChars line.reverse false]
  | c :: cs =>
    if c = '\n' then Line.ofChars line.reverse true :: linesOf [] cs else linesOf (c :: line) cs

/-- The text of lines from a column on, one line under the other. -/
def joinLines (column : Nat) : List Line → List Char
  | [] => []
  | [l] => l.textFrom column
  | l :: ls => l.textFrom column ++ '\n' :: joinLines column ls

end MarkdownAdf.Markdown
