import MarkdownAdf.Proofs.Node.Text
import MarkdownAdf.Proofs.Outline.Tree

/-!
# The text of block trees

The characters that the tokens of a block tree show, in the order of the tokens. This is what a
reader of the Markdown would find in the document, and it is stated without the document.
-/

namespace MarkdownAdf

namespace Inline

/-- The characters that an inline token shows: an image is shown by its description, or by its
source when it has none. -/
def shown (style : Style) : Inline → List Char
  | .text content | .code content => content.toList
  | .softBreak => if style.preserveLineBreaks then [] else [' ']
  | .markup content =>
    match Text.Checkbox.ofMarkup content with
    | .absent => []
    | .box checked =>
      if style.stripCheckboxes then [] else if checked then ['[', 'x', ']'] else ['[', ' ', ']']
  | .image content src alt =>
    ((nonempty? (some content) <|> nonempty? alt <|> nonempty? src).getD "").toList
  | .hardBreak | .openMark _ | .closeMark _ | .openLink .. | .closeLink | .other _ => []

def shownAll (style : Style) (tokens : List Inline) : List Char := tokens.flatMap (shown style)

/-- What the content of a task shows: its checkboxes are left out, and so are the blanks with which
its first text begins when nothing stands before that. -/
def taskShown (style : Style) (tokens : List Inline) : List Char :=
  let stripped := { style with stripCheckboxes := true }
  let first := Node.firstRun (pieces stripped {} tokens)
  first.dropWhile Text.isBlank ++ (shownAll stripped tokens).drop first.length

end Inline

namespace Token

/-- What the body of a leaf shows. -/
def bodyShown (style : Inline.Style) (body : Option Token) : List Char :=
  Inline.shownAll style ((body.map inlines).getD [])

def taskBodyShown (style : Inline.Style) (body : Option Token) : List Char :=
  Inline.taskShown style ((body.map inlines).getD [])

/-- What source code shows: all of it but a line feed at its end. -/
def codeShown (t : Token) : List Char :=
  if t.content.toList.getLast? = some '\n' then t.content.toList.dropLast else t.content.toList

end Token

def RowTree.shown (style : Inline.Style) (r : RowTree) : List Char :=
  r.cells.flatMap fun c => Token.bodyShown style c.body

def SectionTree.shown (style : Inline.Style) (x : SectionTree) : List Char :=
  x.rows.flatMap (RowTree.shown style)

namespace BlockTree

mutual

/-- What a block shows. -/
def shown (style : Inline.Style) : BlockTree → List Char
  | .paragraph _ body | .heading _ body => Token.bodyShown style body
  | .loose body => Token.bodyShown style (some body)
  | .fence t | .codeBlock t => t.codeShown
  | .rule _ => []
  | .quote _ children => shownAll style children
  | .list _ ordered items => itemsShown style ordered items
  | .table _ head body => head.shown style ++ (body.map (SectionTree.shown style)).getD []

def shownAll (style : Inline.Style) : List BlockTree → List Char
  | [] => []
  | b :: rest => b.shown style ++ shownAll style rest

/-- What an item shows. Only the leading paragraph or loose text of a task is the task's own. -/
def itemShown (style : Inline.Style) (ordered : Bool) : ItemTree → List Char
  | ⟨ends, children⟩ =>
    if ItemTree.isTask ordered ⟨ends, children⟩ then
      match children with
      | .paragraph _ body :: rest => Token.taskBodyShown style body ++ shownAll style rest
      | .loose body :: rest => Token.taskBodyShown style (some body) ++ shownAll style rest
      | others => shownAll style others
    else shownAll style children

def itemsShown (style : Inline.Style) (ordered : Bool) : List ItemTree → List Char
  | [] => []
  | i :: rest => itemShown style ordered i ++ itemsShown style ordered rest

end

end BlockTree

end MarkdownAdf
