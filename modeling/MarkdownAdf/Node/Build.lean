import MarkdownAdf.Node.Basic

/-!
# Constructors of nodes and marks
-/

namespace MarkdownAdf

namespace Mark

/-- A mark without attributes. -/
def plain (k : MarkKind) : Mark := ⟨k.name, []⟩

/-- A link; an empty title is left out. -/
def link (href : String) (title : Option String := none) : Mark :=
  ⟨MarkKind.link.name, ("href", .str href) :: match nonempty? title with
    | some t => [("title", .str t)]
    | none => []⟩

def textColor (color : String) : Mark := ⟨MarkKind.textColor.name, [("color", .str color)]⟩

end Mark

namespace Node

/-- An attribute that is left out when its text is missing or empty. -/
def optionalAttr (name : String) (text : Option String) : Attributes :=
  match nonempty? text with
  | some s => [(name, .str s)]
  | none => []

/-- A node that has a kind and content and nothing else. -/
def container (k : NodeKind) (content : List Node) : Node := { type := k.name, content }

/-- A text with its marks. -/
def run (text : String) (marks : List Mark := []) : Node :=
  { type := NodeKind.text.name, text := some text, marks }

def hardBreak : Node := container .hardBreak []

def inlineCard (url : String) : Node :=
  { type := NodeKind.inlineCard.name, attrs := [("url", .str url)] }

def mention (id : String) (text : Option String := none) : Node :=
  { type := NodeKind.mention.name, attrs := ("id", .str id) :: optionalAttr "text" text }

def emoji (shortName : String) (id text : Option String := none) : Node :=
  { type := NodeKind.emoji.name,
    attrs := ("shortName", .str shortName) :: optionalAttr "id" id ++ optionalAttr "text" text }

def paragraph (content : List Node := []) : Node := container .paragraph content

def heading (level : Int) (content : List Node) : Node :=
  { type := NodeKind.heading.name, attrs := [("level", .int level)], content }

def bulletList (items : List Node) : Node := container .bulletList items

def orderedList (items : List Node) : Node := container .orderedList items

def listItem (content : List Node) : Node := container .listItem content

/-- A task list with a given local id; without one it waits for `Node.label`. -/
def taskList (items : List Node) (localId : Option String := none) : Node :=
  { type := NodeKind.taskList.name, attrs := optionalAttr "localId" localId, content := items }

/-- The state of a task item. -/
def taskState (checked : Bool) : String := if checked then "DONE" else "TODO"

/-- A task item with a given local id; without one it waits for `Node.label`. -/
def taskItem (content : List Node) (checked : Bool := false) (localId : Option String := none) :
    Node :=
  { type := NodeKind.taskItem.name,
    attrs := optionalAttr "localId" localId ++ [("state", .str (taskState checked))], content }

/-- Source code as a single text without marks; an empty language is left out. -/
def codeBlock (source : String) (language : Option String := none) : Node :=
  { type := NodeKind.codeBlock.name, attrs := optionalAttr "language" language,
    content := if source = "" then [] else [run source] }

def blockquote (content : List Node) : Node := container .blockquote content

def rule : Node := container .rule []

def table (rows : List Node) (numbered : Bool := false) (layout : String := "default") : Node :=
  { type := NodeKind.table.name,
    attrs := [("isNumberColumnEnabled", .bool numbered), ("layout", .str layout)], content := rows }

def tableRow (cells : List Node) : Node := container .tableRow cells

def tableHeader (content : List Node) : Node := container .tableHeader content

def tableCell (content : List Node) : Node := container .tableCell content

end Node

end MarkdownAdf
