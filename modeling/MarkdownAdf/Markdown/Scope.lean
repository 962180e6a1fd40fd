import MarkdownAdf.Markdown.Leaf

/-!
# The surroundings of a block

A block is read among the lines of its container. What may stand on a line decides whether the block
before it goes on there.
-/

namespace MarkdownAdf.Markdown

/-- The container that is being read: its lines as it leaves them, the column at which its content
stands, the column of the list around it, and the number of containers around. Paragraphs read up to
`limit`. -/
structure Scope where
  lines : Array Line
  limit : Nat
  column : Nat := 0
  outer : Option Nat := none
  depth : Nat := 0

/-- Containers are nested no deeper than this; what lies deeper is left out. -/
def maxDepth : Nat := 20

namespace Scope

/-- A line; behind the last line there is nothing. -/
def line (s : Scope) (i : Nat) : Line :=
  s.lines.getD i { chars := [], shift := 0, indent := 0, ended := false }

def isEmpty (s : Scope) (i : Nat) : Bool := (s.line i).isEmpty

def isCode (s : Scope) (i : Nat) : Bool := (s.line i).isCode s.column

/-- Whether a line stands left of the content of the container. -/
def isOutside (s : Scope) (i : Nat) : Bool := (s.line i).indent < s.column

/-- The text of lines from a column on. -/
def text (s : Scope) (start stop column : Nat) : List Char :=
  joinLines column (s.lines.extract start stop).toList

/-- The first line from `i` on that is not empty. -/
def skipEmpty (s : Scope) (i : Nat) : Nat :=
  if i < s.limit then if s.isEmpty i then skipEmpty s (i + 1) else i else i
termination_by s.limit - i

theorem le_skipEmpty (s : Scope) (i : Nat) : i ≤ s.skipEmpty i := by
  fun_induction skipEmpty s i with
  | case1 i _ _ ih => omega
  | case2 => exact Nat.le_refl _
  | case3 => exact Nat.le_refl _

/-- Skips an empty line that follows a block. -/
def skipLine (s : Scope) (stop i : Nat) : Nat := if i < stop && s.isEmpty i then i + 1 else i

/-- The mark of the list item that a line opens. A line of a list that stands left of its content is
not an item when it stands four columns behind the list around. -/
def item? (s : Scope) (i : Nat) : Option Marker :=
  let l := s.line i
  let strays := match s.outer with
    | some column => l.indent - column ≥ 4 && l.indent < s.column
    | none => false
  if l.isCode s.column || strays then none else Marker.read? l.body

/-! ### Tables -/

/-- Cuts a row into cells at its bars. `cell` is the cell in progress, read backwards; a bar behind
a backslash belongs to it. -/
def cellsOf (cell : List Char) : List Char → List (List Char)
  | [] => [cell.reverse]
  | '|' :: cs =>
    match cell with
    | '\\' :: front => cellsOf ('|' :: front) cs
    | _ => cell.reverse :: cellsOf [] cs
  | c :: cs => cellsOf (c :: cell) cs

/-- The cells of a row without the blanks around them. Bars at its ends are no cells. -/
def cells (row : List Char) : List (List Char) :=
  let parts := cellsOf [] (trimPadding row)
  let parts := if parts.head? = some [] then parts.drop 1 else parts
  let parts := if parts.getLast? = some [] then parts.dropLast else parts
  parts.map trimPadding

/-- Whether a text is the mark of a column: hyphens, with a colon at each end that is aligned. -/
def isColumnMark (cs : List Char) : Bool :=
  let cs := if cs.head? = some ':' then cs.drop 1 else cs
  let cs := if cs.getLast? = some ':' then cs.dropLast else cs
  !cs.isEmpty && cs.all (· = '-')

/-- The number of columns that a line of marks sets. -/
def columnCount? (row : List Char) : Option Nat :=
  match row with
  | a :: b :: _ =>
    let marks (c : Char) := c = '|' || c = '-' || c = ':'
    if marks a && row.all (fun c => marks c || isGap c) && !(a = '-' && isGap b) then
      let parts := (row.splitOn '|').map trimPadding
      let parts := if parts.head? = some [] then parts.drop 1 else parts
      let parts := if parts.getLast? = some [] then parts.dropLast else parts
      if parts.all isColumnMark then some parts.length else none
    else none
  | _ => none

/-- The cells of the head of a table, which a line of marks under it makes a table. -/
def tableHead? (s : Scope) (i stop : Nat) : Option (List (List Char)) :=
  if i + 2 ≤ stop && !s.isOutside (i + 1) && !s.isCode (i + 1) && !s.isCode i &&
      (s.line i).body.contains '|' then
    let head := cells (s.line i).body
    match columnCount? (s.line (i + 1)).body with
    | some n => if n = head.length && 0 < n then some head else none
    | none => none
  else none

/-! ### Ends of blocks -/

/-- Whether a line ends the list before it. -/
def endsList (s : Scope) (i : Nat) : Bool :=
  let l := s.line i
  (l.fence? s.column).isSome || l.opensQuote s.column || (l.rule? s.column).isSome

/-- Whether a line ends the quote or table before it. -/
def endsQuote (s : Scope) (i : Nat) : Bool :=
  s.endsList i || (s.item? i).isSome || ((s.line i).heading? s.column).isSome

/-- Whether a line ends the paragraph before it. An item that does not stand left of the content has
to be one that may follow a paragraph. -/
def endsParagraph (s : Scope) (i : Nat) : Bool :=
  s.endsList i || ((s.line i).heading? s.column).isSome || (s.tableHead? i s.limit).isSome ||
    match s.item? i with
    | some m => s.isOutside i || m.interrupts (s.line i).body
    | none => false

/-- Whether a line ends the definition before it. -/
def endsDefinition (s : Scope) (i : Nat) : Bool :=
  s.endsQuote i || (s.tableHead? i s.limit).isSome

/-- Whether a line goes on with a paragraph whatever it holds. -/
def continues (s : Scope) (i : Nat) : Bool := s.isCode i || (s.line i).indent < 0

/-- The line behind a paragraph, looking from line `i` on. -/
def paragraphStop (s : Scope) (i : Nat) : Nat :=
  if i < s.limit then
    if s.isEmpty i then i
    else if s.continues i || !s.endsParagraph i then paragraphStop s (i + 1)
    else i
  else i
termination_by s.limit - i

/-- The line behind the text that definitions are read from, looking from line `i` on. -/
def definitionStop (s : Scope) (i : Nat) : Nat :=
  if i < s.limit then
    if s.isEmpty i then i
    else if s.continues i || !s.endsDefinition i then definitionStop s (i + 1)
    else i
  else i
termination_by s.limit - i

/-- The line that underlines a paragraph and makes it a heading, looking from line `i` on, with the
level and the mark. -/
def underline? (s : Scope) (stop i : Nat) : Option (Nat × Nat × Char) :=
  if i < stop then
    if s.isEmpty i then none
    else if s.isCode i then underline? s stop (i + 1)
    else
      match if s.isOutside i then none else (s.line i).underline? with
      | some (level, mark) => some (i, level, mark)
      | none =>
        if (s.line i).indent < 0 || !s.endsParagraph i then underline? s stop (i + 1) else none
  else none
termination_by stop - i

end Scope

end MarkdownAdf.Markdown
