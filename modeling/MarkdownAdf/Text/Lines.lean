/-!
# Lines of a text

Two ways to cut a text into lines: at every character that ends a line of text, and at line feeds
alone. In both a carriage return followed by a line feed is one end of line.
-/

namespace MarkdownAdf.Text

/-- The characters at which `lines` ends a line. -/
def endsLine (c : Char) : Bool :=
  let n := c.toNat
  (0x0A ≤ n && n ≤ 0x0D) || (0x1C ≤ n && n ≤ 0x1E) || n == 0x85 || n == 0x2028 || n == 0x2029

/-- Cuts a list of characters into lines; `line` is the line in progress, read backwards, and
`afterReturn` says that the last character read was a carriage return. -/
def linesOf (line : List Char) (afterReturn : Bool) : List Char → List (List Char)
  | [] => if line.isEmpty then [] else [line.reverse]
  | c :: rest =>
    if c = '\n' && afterReturn then linesOf [] false rest
    else if endsLine c then line.reverse :: linesOf [] (c = '\r') rest
    else linesOf (c :: line) false rest

/-- The lines of a text without their ends; a text that ends with an end of line has no empty last
line. -/
def lines (s : String) : List String := (linesOf [] false s.toList).map String.ofList

/-- Writes every end of line, `\r\n` or `\r` or `\n`, as a line feed. -/
def unifyLineEnds : List Char → List Char
  | [] => []
  | '\r' :: '\n' :: rest => '\n' :: unifyLineEnds rest
  | '\r' :: rest => '\n' :: unifyLineEnds rest
  | c :: rest => c :: unifyLineEnds rest

end MarkdownAdf.Text
