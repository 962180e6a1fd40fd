import MarkdownAdf.Value.Attributes

/-!
# Document nodes

A document is a tree of nodes. Blocks hold other nodes, text nodes hold a text and its marks. The
type of a node or mark is an open vocabulary: any name is allowed, and `NodeKind` and `MarkKind`
list the names that have a meaning here.
-/

namespace MarkdownAdf

inductive NodeKind where
  | doc
  | paragraph
  | heading
  | bulletList
  | orderedList
  | listItem
  | taskList
  | taskItem
  | table
  | tableRow
  | tableHeader
  | tableCell
  | codeBlock
  | blockquote
  | rule
  | text
  | hardBreak
  | mention
  | emoji
  | inlineCard
  | unknown
  deriving DecidableEq, Repr

namespace NodeKind

def all : List NodeKind :=
  [doc, paragraph, heading, bulletList, orderedList, listItem, taskList, taskItem, table, tableRow,
    tableHeader, tableCell, codeBlock, blockquote, rule, text, hardBreak, mention, emoji,
    inlineCard, unknown]

def name : NodeKind → String
  | doc => "doc"
  | paragraph => "paragraph"
  | heading => "heading"
  | bulletList => "bulletList"
  | orderedList => "orderedList"
  | listItem => "listItem"
  | taskList => "taskList"
  | taskItem => "taskItem"
  | table => "table"
  | tableRow => "tableRow"
  | tableHeader => "tableHeader"
  | tableCell => "tableCell"
  | codeBlock => "codeBlock"
  | blockquote => "blockquote"
  | rule => "rule"
  | text => "text"
  | hardBreak => "hardBreak"
  | mention => "mention"
  | emoji => "emoji"
  | inlineCard => "inlineCard"
  | unknown => "unknown"

/-- The kind that a type name stands for. -/
def ofName (s : String) : NodeKind := (all.find? fun k => k.name == s).getD unknown

@[simp]
theorem ofName_name (k : NodeKind) : ofName k.name = k := by
  cases k <;> rfl

/-- Whether nodes of the kind are block-level content. -/
def isBlock : NodeKind → Bool
  | paragraph | heading | bulletList | orderedList | listItem | taskList | taskItem | table
  | tableRow | tableHeader | tableCell | codeBlock | blockquote | rule => true
  | doc | text | hardBreak | mention | emoji | inlineCard | unknown => false

/-- Whether an item of a bullet or ordered list may hold nodes of the kind. -/
def fitsListItem : NodeKind → Bool
  | paragraph | bulletList | orderedList => true
  | _ => false

end NodeKind

inductive MarkKind where
  | strong
  | em
  | code
  | strike
  | underline
  | link
  | textColor
  deriving DecidableEq, Repr

def MarkKind.name : MarkKind → String
  | strong => "strong"
  | em => "em"
  | code => "code"
  | strike => "strike"
  | underline => "underline"
  | link => "link"
  | textColor => "textColor"

/-- Formatting attached to a text. -/
structure Mark where
  type : String
  attrs : Attributes := []
  deriving DecidableEq

/-- Marks are the same when their types and attributes are. -/
def Mark.same (a b : Mark) : Bool := a.type == b.type && a.attrs.same b.attrs

/-- Whether two lists of marks agree, mark by mark. -/
def Mark.sameAll : List Mark → List Mark → Bool
  | [], [] => true
  | a :: as, b :: bs => a.same b && sameAll as bs
  | _, _ => false

/-- One node of a document, with everything below it. -/
structure Node where
  type : String
  content : List Node := []
  text : Option String := none
  attrs : Attributes := []
  marks : List Mark := []
  deriving Inhabited

/-- The root of a document. -/
structure Document where
  version : Int := 1
  content : List Node := []

namespace Node

def kind (n : Node) : NodeKind := NodeKind.ofName n.type

def isBlock (n : Node) : Bool := n.kind.isBlock

def isText (n : Node) : Bool := n.kind == .text

/-- The text of a text node, empty where it has none. -/
def ownText (n : Node) : String := n.text.getD ""

/-- Whether a mark of the given type is attached. -/
def hasMark (n : Node) (type : String) : Bool := n.marks.any fun m => m.type == type

/-- The local id among the attributes, null when there is none. -/
def localId (n : Node) : Value := n.attrs.value "localId"

/-- Joins the texts of children: with spaces between them when the first child is a block. -/
def joinTexts (content : List Node) (texts : List String) : String :=
  let separator := if content.head?.any isBlock then " " else ""
  separator.intercalate (texts.filter (· ≠ ""))

mutual

/-- All text of a node and what is below it; a node with a text of its own shows only that. -/
def textContent : Node → String
  | ⟨_, content, text, _, _⟩ =>
    match nonempty? text with
    | some s => s
    | none => joinTexts content (textContents content)

def textContents : List Node → List String
  | [] => []
  | n :: rest => textContent n :: textContents rest

end

mutual

/-- A node and every node below it, each before its children. -/
def subtree : Node → List Node
  | ⟨type, content, text, attrs, marks⟩ => ⟨type, content, text, attrs, marks⟩ :: forest content

/-- The nodes of a list of trees, tree by tree. -/
def forest : List Node → List Node
  | [] => []
  | n :: rest => subtree n ++ forest rest

end

mutual

/-- Equality of trees, up to the order of attributes and the way numbers are kept. -/
def same : Node → Node → Bool
  | ⟨type, content, text, attrs, marks⟩, ⟨type', content', text', attrs', marks'⟩ =>
    type == type' && text == text' && attrs.same attrs' && Mark.sameAll marks marks' &&
      sameAll content content'

def sameAll : List Node → List Node → Bool
  | [], [] => true
  | a :: as, b :: bs => same a b && sameAll as bs
  | _, _ => false

end

end Node

namespace Document

/-- Every node of the document, each before its children. -/
def nodes (d : Document) : List Node := Node.forest d.content

/-- The local ids in document order, duplicates included. -/
def localIds (d : Document) : List Value := (d.nodes.map Node.localId).filter Value.isPresent

def same (a b : Document) : Bool := a.version == b.version && Node.sameAll a.content b.content

end Document

end MarkdownAdf
