import MarkdownAdf.Node.Merge
import MarkdownAdf.Token.Inline
import MarkdownAdf.Log.Event

/-!
# Inline content

Inline tokens open and close formatting; a document attaches a flat list of marks to every text. A
cursor keeps the marks that are open. Each token gives the nodes that it stands for, and
neighbouring texts with the same marks are joined at the end.
-/

namespace MarkdownAdf

namespace Emphasis

def markKind : Emphasis → MarkKind
  | strong => .strong
  | em => .em
  | strike => .strike
  | underline => .underline

def mark (e : Emphasis) : Mark := Mark.plain e.markKind

end Emphasis

namespace Inline

structure Style where
  /-- soft breaks become hard breaks instead of spaces -/
  preserveLineBreaks : Bool := false
  /-- the markup of checkboxes is left out, and its state reported -/
  stripCheckboxes : Bool := false
  deriving DecidableEq, Repr

/-- What is open at a place in the tokens. -/
structure Cursor where
  /-- the open marks, the most recent first -/
  marks : List Mark := []
  /-- for each open link whether it has a mark, the most recent first -/
  links : List Bool := []
  /-- whether a checked checkbox was left out -/
  sawChecked : Bool := false
  deriving DecidableEq

/-- Keeps the first mark of each type. -/
def firstOfType : List Mark → List Mark
  | [] => []
  | m :: rest => m :: (firstOfType rest).filter fun x => x.type != m.type

namespace Cursor

/-- The marks of a text at the cursor, in the order of their opening; `inner` marks this text
alone. -/
def marksOf (c : Cursor) (inner : List Mark := []) : List Mark :=
  firstOfType (c.marks.reverse ++ inner)

def push (c : Cursor) (m : Mark) : Cursor := { c with marks := m :: c.marks }

/-- Removes the most recent mark of a kind. -/
def remove (c : Cursor) (k : MarkKind) : Cursor :=
  { c with marks := c.marks.eraseP fun m => m.type == k.name }

/-- A text at the cursor; an empty text gives no node. -/
def run (c : Cursor) (text : String) (inner : List Mark := []) : List Node :=
  if text = "" then [] else [Node.run text (c.marksOf inner)]

/-- The cursor behind a token. -/
def advance (style : Style) (c : Cursor) : Inline → Cursor
  | .openMark e => c.push e.mark
  | .closeMark e => c.remove e.markKind
  | .openLink href title =>
    match nonempty? href with
    | some url => { c.push (Mark.link url title) with links := true :: c.links }
    | none => { c with links := false :: c.links }
  | .closeLink =>
    match c.links with
    | [] => c
    | true :: rest => { c.remove .link with links := rest }
    | false :: rest => { c with links := rest }
  | .markup content =>
    if style.stripCheckboxes then
      { c with sawChecked := c.sawChecked || (Text.Checkbox.ofMarkup content).isChecked }
    else c
  | _ => c

/-- The nodes that a token stands for. -/
def nodes (style : Style) (c : Cursor) : Inline → List Node
  | .text content => c.run content
  | .code content => c.run content [Mark.plain .code]
  | .softBreak => if style.preserveLineBreaks then [Node.hardBreak] else c.run " "
  | .hardBreak => [Node.hardBreak]
  | .markup content =>
    match Text.Checkbox.ofMarkup content with
    | .absent => []
    | .box checked => if style.stripCheckboxes then [] else c.run (Text.Checkbox.source checked)
  | .image content src alt =>
    let shown := nonempty? (some content) <|> nonempty? alt
    match nonempty? src with
    | some url => c.run (shown.getD url) [Mark.link url]
    | none => c.run (shown.getD "")
  | _ => []

end Cursor

/-- What is noted about a token that has no place in a document. -/
def event? : Inline → Option Event
  | .markup content =>
    if (Text.Checkbox.ofMarkup content).isPresent then none else some (.ignoredMarkup content)
  | .other name => some (.ignoredInline name)
  | _ => none

/-- The cursor behind a row of tokens. -/
def advanceAll (style : Style) (c : Cursor) (tokens : List Inline) : Cursor :=
  tokens.foldl (Cursor.advance style) c

/-- The nodes of a row of tokens, before neighbouring texts are joined. -/
def pieces (style : Style) (c : Cursor) : List Inline → List Node
  | [] => []
  | t :: rest => c.nodes style t ++ pieces style (c.advance style t) rest

/-- The inline content of a block. -/
structure Content where
  nodes : List Node
  sawChecked : Bool
  events : List Event

/-- Turns inline tokens into inline nodes. -/
def resolve (style : Style) (tokens : List Inline) : Content where
  nodes := Node.mergeTexts (pieces style {} tokens)
  sawChecked := (advanceAll style {} tokens).sawChecked
  events := tokens.filterMap event?

end Inline

end MarkdownAdf
