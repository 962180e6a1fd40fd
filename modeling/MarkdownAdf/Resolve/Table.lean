import MarkdownAdf.Outline.Basic
import MarkdownAdf.Node.Build

/-!
# Rows of a table

The parts of a table are cut into rows of cells. A cell is a header cell when its token says so or
when it stands in the head of the table.
-/

namespace MarkdownAdf

namespace TablePart

variable {α β : Type}

/-- A row in progress, the rows before it, and whether the head of the table is open. -/
structure Rows (α : Type) where
  inHead : Bool := false
  current : Option (List (Bool × α)) := none
  done : List (List (Bool × α)) := []

namespace Rows

/-- Adds a part. A cell outside every row starts one, and an opened row forgets the cells of a row
that was left open. -/
def add (r : Rows α) : TablePart α → Rows α
  | .headOpen => { r with inHead := true }
  | .headClose => { r with inHead := false }
  | .rowOpen => { r with current := some [] }
  | .rowClose => { r with current := none, done := r.done ++ r.current.toList }
  | .cell header body =>
    { r with current := some (r.current.getD [] ++ [(r.inHead || header, body)]) }

/-- All rows; a row left open counts when it has cells. -/
def finish (r : Rows α) : List (List (Bool × α)) :=
  r.done ++ r.current.toList.filter fun cells => !cells.isEmpty

end Rows

/-- The rows of a table: cells with whether they are header cells. -/
def rows (parts : List (TablePart α)) : List (List (Bool × α)) := (parts.foldl Rows.add {}).finish

/-- Changes the body of a cell. -/
def map (f : α → β) : TablePart α → TablePart β
  | .headOpen => .headOpen
  | .headClose => .headClose
  | .rowOpen => .rowOpen
  | .rowClose => .rowClose
  | .cell header body => .cell header (f body)

/-- The body of a cell. -/
def body? : TablePart α → Option α
  | .cell _ body => some body
  | _ => none

end TablePart

/-- A cell of a table, holding one paragraph. -/
def Node.cell (header : Bool) (content : List Node) : Node :=
  if header then Node.tableHeader [Node.paragraph content]
  else Node.tableCell [Node.paragraph content]

/-- The table of rows of cells. -/
def Node.tableOfRows (rows : List (List (Bool × List Node))) : Node :=
  Node.table (rows.map fun cells => Node.tableRow (cells.map fun c => Node.cell c.1 c.2))

end MarkdownAdf
