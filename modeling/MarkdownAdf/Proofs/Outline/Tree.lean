import MarkdownAdf.Outline.Basic

/-!
# Block trees

A block tree is well-formed Markdown: every container has an opening and a closing token, and its
children stand between them. `BlockTree.flatten` writes a tree as a row of tokens, and
`BlockTree.outline` is the outline that a reader of these tokens should come to.
-/

namespace MarkdownAdf

/-- The token with another kind. Trees hold their tokens without regard to the kind, which is set
when a tree is written. -/
def Token.withKind (t : Token) (k : TokenKind) : Token := { t with kind := k }

/-- The inline tokens of a leaf, at most one. -/
def Token.ofBody (body : Option Token) : List Token := (body.map (·.withKind .inline)).toList

/-- The tokens around a construct. -/
structure Delimiters where
  opening : Token
  closing : Token

namespace Delimiters

/-- Writes a construct with its opening and closing tokens. -/
def around (d : Delimiters) (first last : TokenKind) (inner : List Token) : List Token :=
  d.opening.withKind first :: (inner ++ [d.closing.withKind last])

theorem around_append (d : Delimiters) (first last : TokenKind) (inner rest : List Token) :
    d.around first last inner ++ rest =
      d.opening.withKind first :: (inner ++ d.closing.withKind last :: rest) := by
  simp [around]

end Delimiters

/-! ### Tables -/

structure CellTree where
  ends : Delimiters
  header : Bool
  body : Option Token

structure RowTree where
  ends : Delimiters
  cells : List CellTree

/-- The head or the body of a table. -/
structure SectionTree where
  ends : Delimiters
  rows : List RowTree

def CellTree.flatten (c : CellTree) : List Token :=
  c.ends.around (.cellOpen c.header) (.cellClose c.header) (Token.ofBody c.body)

def CellTree.part (c : CellTree) : TablePart (Option Token) :=
  .cell c.header (c.body.map (·.withKind .inline))

def CellTree.hasCheckbox (c : CellTree) : Bool := c.body.any Token.hasCheckbox

namespace RowTree

def flatten (r : RowTree) : List Token :=
  r.ends.around .rowOpen .rowClose (r.cells.flatMap CellTree.flatten)

def parts (r : RowTree) : List (TablePart (Option Token)) :=
  .rowOpen :: (r.cells.map CellTree.part ++ [.rowClose])

def hasCheckbox (r : RowTree) : Bool := r.cells.any CellTree.hasCheckbox

end RowTree

namespace SectionTree

def flattenRows (x : SectionTree) : List Token := x.rows.flatMap RowTree.flatten

def flattenHead (x : SectionTree) : List Token := x.ends.around .headOpen .headClose x.flattenRows

def flattenBody (x : SectionTree) : List Token :=
  x.ends.around (.other "tbody_open") (.other "tbody_close") x.flattenRows

def parts (x : SectionTree) : List (TablePart (Option Token)) := x.rows.flatMap RowTree.parts

def headParts (x : SectionTree) : List (TablePart (Option Token)) :=
  .headOpen :: (x.parts ++ [.headClose])

def hasCheckbox (x : SectionTree) : Bool := x.rows.any RowTree.hasCheckbox

end SectionTree

/-! ### Blocks -/

mutual

inductive BlockTree where
  | paragraph (ends : Delimiters) (body : Option Token)
  | heading (ends : Delimiters) (body : Option Token)
  /-- an inline token outside any leaf block -/
  | loose (body : Token)
  | fence (token : Token)
  | codeBlock (token : Token)
  | rule (token : Token)
  | quote (ends : Delimiters) (children : List BlockTree)
  | list (ends : Delimiters) (ordered : Bool) (items : List ItemTree)
  | table (ends : Delimiters) (head : SectionTree) (body : Option SectionTree)

inductive ItemTree where
  | mk (ends : Delimiters) (children : List BlockTree)

end

/-! ### Task items -/

mutual

/-- Whether an inline token of the block holds a checkbox; items of lists are not looked into. -/
def BlockTree.hasCheckbox : BlockTree → Bool
  | .paragraph _ body | .heading _ body => body.any Token.hasCheckbox
  | .loose body => body.hasCheckbox
  | .quote _ children => anyCheckbox children
  | .table _ head body => head.hasCheckbox || body.any SectionTree.hasCheckbox
  | .fence _ | .codeBlock _ | .rule _ | .list .. => false

def BlockTree.anyCheckbox : List BlockTree → Bool
  | [] => false
  | b :: rest => b.hasCheckbox || anyCheckbox rest

end

namespace ItemTree

def ends : ItemTree → Delimiters
  | ⟨ends, _⟩ => ends

def children : ItemTree → List BlockTree
  | ⟨_, children⟩ => children

/-- Whether an item of a list is a task. -/
def isTask (ordered : Bool) (i : ItemTree) : Bool :=
  !ordered && (i.ends.opening.hasTaskClass || BlockTree.anyCheckbox i.children)

end ItemTree

/-! ### Tokens and outlines of trees -/

namespace BlockTree

mutual

def flatten : BlockTree → List Token
  | .paragraph ends body => ends.around .paragraphOpen .paragraphClose (Token.ofBody body)
  | .heading ends body => ends.around .headingOpen .headingClose (Token.ofBody body)
  | .loose body => [body.withKind .inline]
  | .fence t => [t.withKind .fence]
  | .codeBlock t => [t.withKind .codeBlock]
  | .rule t => [t.withKind .rule]
  | .quote ends children => ends.around .quoteOpen .quoteClose (flattenAll children)
  | .list ends ordered items =>
    ends.around (.listOpen ordered) (.listClose ordered) (flattenItems items)
  | .table ends head body =>
    ends.around .tableOpen .tableClose
      (head.flattenHead ++ (body.map SectionTree.flattenBody).getD [])

def flattenAll : List BlockTree → List Token
  | [] => []
  | b :: rest => b.flatten ++ flattenAll rest

def flattenItem : ItemTree → List Token
  | ⟨ends, children⟩ => ends.around .itemOpen .itemClose (flattenAll children)

def flattenItems : List ItemTree → List Token
  | [] => []
  | i :: rest => flattenItem i ++ flattenItems rest

end

mutual

def outline : BlockTree → Block
  | .paragraph ends body =>
    .paragraph (ends.opening.withKind .paragraphOpen) (body.map (·.withKind .inline))
  | .heading ends body =>
    .heading (ends.opening.withKind .headingOpen) (body.map (·.withKind .inline))
  | .loose body => .loose (body.withKind .inline)
  | .fence t => .code (t.withKind .fence)
  | .codeBlock t => .code (t.withKind .codeBlock)
  | .rule t => .rule (t.withKind .rule)
  | .quote ends children => .quote (ends.opening.withKind .quoteOpen) (outlines children)
  | .list ends ordered items =>
    .list (ends.opening.withKind (.listOpen ordered)) ordered (itemOutlines ordered items)
  | .table ends head body =>
    .table (ends.opening.withKind .tableOpen)
      (head.headParts ++ (body.map SectionTree.parts).getD [])

def outlines : List BlockTree → List Block
  | [] => []
  | b :: rest => b.outline :: outlines rest

def itemOutline (ordered : Bool) : ItemTree → Item
  | ⟨ends, children⟩ =>
    ⟨ends.opening.withKind .itemOpen, ItemTree.isTask ordered ⟨ends, children⟩, outlines children⟩

def itemOutlines (ordered : Bool) : List ItemTree → List Item
  | [] => []
  | i :: rest => itemOutline ordered i :: itemOutlines ordered rest

end

end BlockTree

end MarkdownAdf
