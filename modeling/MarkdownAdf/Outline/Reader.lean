import MarkdownAdf.Outline.Basic

/-!
# Reading outlines

The reader goes through the tokens once and keeps what is open. A container that the tokens leave
open is closed at their end, and a token that has no place where it stands is kept as a stray or
passed over, so every row of tokens has an outline.
-/

namespace MarkdownAdf

namespace Outline

/-- The containers of blocks that are open around a place. Each level keeps, most recent first, what
stands before it in its container. -/
inductive Context where
  | top
  | quote (opening : Token) (before : List Block) (outer : Context)
  | item (list : Token) (ordered : Bool) (items : List Item) (opening : Token) (task : Bool)
      (before : List Block) (outer : Context)

/-- The leaf blocks. -/
inductive Leaf where
  | paragraph
  | heading
  deriving DecidableEq, Repr

/-- The reader between two tokens. `blocks` are those read so far in the innermost container of
blocks, the most recent first. -/
inductive State where
  | atBlock (context : Context) (blocks : List Block)
  | inLeaf (context : Context) (blocks : List Block) (leaf : Leaf) (opening : Token)
      (body : Option Token)
  | inList (context : Context) (blocks : List Block) (opening : Token) (ordered : Bool)
      (items : List Item)
  | inTable (context : Context) (blocks : List Block) (opening : Token)
      (parts : List (TablePart (Option Token)))
  | inCell (context : Context) (blocks : List Block) (opening : Token)
      (parts : List (TablePart (Option Token))) (header : Bool) (body : Option Token)

def Leaf.block : Leaf → Token → Option Token → Block
  | .paragraph => Block.paragraph
  | .heading => Block.heading

def Leaf.closing : Leaf → TokenKind
  | .paragraph => .paragraphClose
  | .heading => .headingClose

/-- The token that closes the innermost container of blocks, none at the top. -/
def Context.closing : Context → Option TokenKind
  | .top => none
  | .quote .. => some .quoteClose
  | .item .. => some .itemClose

/-- Leaves the innermost container of blocks. -/
def Context.leave (blocks : List Block) : Context → State
  | .top => .atBlock .top blocks
  | .quote opening before outer => .atBlock outer (.quote opening blocks.reverse :: before)
  | .item list ordered items opening task before outer =>
    .inList outer before list ordered (⟨opening, task, blocks.reverse⟩ :: items)

/-- Reads a token among blocks. -/
def State.readBlock (context : Context) (blocks : List Block) (t : Token) : State :=
  match t.kind with
  | .paragraphOpen => .inLeaf context blocks .paragraph t none
  | .headingOpen => .inLeaf context blocks .heading t none
  | .listOpen ordered => .inList context blocks t ordered []
  | .quoteOpen => .atBlock (.quote t blocks context) []
  | .fence | .codeBlock => .atBlock context (.code t :: blocks)
  | .tableOpen => .inTable context blocks t []
  | .rule => .atBlock context (.rule t :: blocks)
  | .inline => .atBlock context (.loose t :: blocks)
  | _ => .atBlock context (.stray t :: blocks)

/-- The part of a table that a token delimits. -/
def tablePart? {α : Type} : TokenKind → Option (TablePart α)
  | .headOpen => some .headOpen
  | .headClose => some .headClose
  | .rowOpen => some .rowOpen
  | .rowClose => some .rowClose
  | _ => none

/-- Reads a token inside a table. -/
def State.readTable (context : Context) (blocks : List Block) (opening : Token)
    (parts : List (TablePart (Option Token))) (t : Token) : State :=
  match t.kind with
  | .tableClose => .atBlock context (.table opening parts.reverse :: blocks)
  | .cellOpen header => .inCell context blocks opening parts header none
  | kind =>
    match tablePart? kind with
    | some part => .inTable context blocks opening (part :: parts)
    | none => .inTable context blocks opening parts

/-- The first inline token of a leaf is its body. -/
def bodyWith (body : Option Token) (t : Token) : Option Token :=
  if body.isNone && t.kind = .inline then some t else body

/-- Reads one token; `rest` are the tokens behind it, which tell what kind of item it may open. -/
def State.read (s : State) (t : Token) (rest : List Token) : State :=
  match s with
  | .atBlock context blocks =>
    if context.closing = some t.kind then context.leave blocks else .readBlock context blocks t
  | .inLeaf context blocks leaf opening body =>
    if t.kind = leaf.closing then .atBlock context (leaf.block opening body :: blocks)
    else .inLeaf context blocks leaf opening (bodyWith body t)
  | .inList context blocks opening ordered items =>
    if t.kind = .listClose ordered then
      .atBlock context (.list opening ordered items.reverse :: blocks)
    else if t.kind = .itemOpen then
      .atBlock (.item opening ordered items t (!ordered && t.opensTask rest) blocks context) []
    else s
  | .inTable context blocks opening parts => .readTable context blocks opening parts t
  | .inCell context blocks opening parts header body =>
    if t.kind = .cellClose header then .inTable context blocks opening (.cell header body :: parts)
    else .inCell context blocks opening parts header (bodyWith body t)

/-- The reader behind a row of tokens. -/
def State.readAll (s : State) : List Token → State
  | [] => s
  | t :: rest => (s.read t rest).readAll rest

/-- The blocks at the top when every container of blocks around a place is closed. -/
def Context.finish (blocks : List Block) : Context → List Block
  | .top => blocks.reverse
  | .quote opening before outer => outer.finish (.quote opening blocks.reverse :: before)
  | .item list ordered items opening task before outer =>
    outer.finish (.list list ordered (⟨opening, task, blocks.reverse⟩ :: items).reverse :: before)

/-- The outline when everything that is open is closed. -/
def State.finish : State → List Block
  | .atBlock context blocks => context.finish blocks
  | .inLeaf context blocks leaf opening body => context.finish (leaf.block opening body :: blocks)
  | .inList context blocks opening ordered items =>
    context.finish (.list opening ordered items.reverse :: blocks)
  | .inTable context blocks opening parts => context.finish (.table opening parts.reverse :: blocks)
  | .inCell context blocks opening parts header body =>
    context.finish (.table opening (.cell header body :: parts).reverse :: blocks)

/-- The outline of a row of tokens. -/
def ofTokens (tokens : List Token) : List Block := ((State.atBlock .top []).readAll tokens).finish

end Outline

end MarkdownAdf
