import MarkdownAdf.Markdown.Block
import MarkdownAdf.Markdown.Inline
import MarkdownAdf.Text.Lines
import MarkdownAdf.Token.Task

/-!
# Reading Markdown

The tokens of a Markdown text. Blocks are read first and their inline content afterwards, when all
definitions are known. Then the boxes of task items are set apart, and addresses in running text
become links.
-/

namespace MarkdownAdf.Markdown

/-! ### Addresses in running text -/

/-- Makes the addresses in a text links. `place` is the place in the whole text at which `cs`
starts. -/
def linkTexts (place : Nat) (cs : List Char) : List BareLink → List Piece
  | [] => if cs.isEmpty then [] else [.text (String.ofList cs)]
  | l :: ls =>
    let before := cs.take (l.start - place)
    let text := (cs.take (l.stop - place)).drop before.length
    let href := Url.link (l.address text)
    if Url.isAllowed href then
      let shown :=
        if l.scheme = "" then (Url.readable (l.address text)).drop "http://".length
        else Url.readable text
      (if before.isEmpty then [] else [.text (String.ofList before)]) ++
        .token (.openLink (some (String.ofList href)) none) :: .text (String.ofList shown) ::
          .token .closeLink :: linkTexts l.stop (cs.drop (l.stop - place)) ls
    else linkTexts place cs ls

/-- Makes the addresses in a piece of text links. An address right behind an escape is none. -/
def linkText (escaped : Bool) (s : String) : List Piece :=
  let cs := s.toList
  let links := BareLink.findAll 0 cs
  let links := if escaped && links.head?.any (·.start = 0) then links.drop 1 else links
  if links.isEmpty then [.text s] else linkTexts 0 cs links

/-- Makes the addresses in pieces links, outside of links. -/
def linkPieces (linked escaped : Bool) : List Piece → List Piece
  | [] => []
  | .text s :: ps =>
    (if linked then [.text s] else linkText escaped s) ++ linkPieces linked false ps
  | .escaped s :: ps => .escaped s :: linkPieces linked true ps
  | .token (.openLink href title) :: ps =>
    .token (.openLink href title) :: linkPieces true false ps
  | .token .closeLink :: ps => .token .closeLink :: linkPieces false false ps
  | p :: ps => p :: linkPieces linked false ps

/-! ### Task items -/

/-- The markup of the box that a text starts with, when it starts with one. A box before other white
space than a space has no markup. -/
def box? : List Char → Option String
  | '[' :: c :: ']' :: d :: _ =>
    if (c = ' ' || c = 'x' || c = 'X') && (d = ' ' || (0x09 ≤ d.toNat && d.toNat ≤ 0x0D)) then
      if d ≠ ' ' then some ""
      else if c = ' ' then
        some "<input class=\"task-list-item-checkbox\" disabled=\"disabled\" type=\"checkbox\">"
      else
        some ("<input class=\"task-list-item-checkbox\" checked=\"checked\" " ++
          "disabled=\"disabled\" type=\"checkbox\">")
    else none
  | _ => none

/-- Puts the markup of a box in the place of its three characters. -/
def setBox (markup : String) : List Piece → List Piece
  | .text s :: ps => .token (.markup markup) :: .text (String.ofList (s.toList.drop 3)) :: ps
  | ps => .token (.markup markup) :: ps

/-! ### Tokens -/

/-- The tokens of pieces, with text in one. -/
def inlinesOf (ps : List Piece) : List Inline :=
  let ps := joinText (ps.map fun
    | .escaped s => .text s
    | p => p)
  ps.map fun
    | .text s => .text s
    | .escaped s => .text s
    | .token t => t
    | .mark d => .text d.text

/-- Reads the content of an inline token, which starts with the markup of a box if one is given. -/
def readContent (definitions : Definitions) (box : Option String) (t : Token) : Token :=
  let cs := t.content.toList
  let ps := piecesOf definitions cs
  let (cs, ps) := match box with
    | some markup => (cs.drop 3, setBox markup ps)
    | none => (cs, ps)
  let ps := if BareLink.mayOccur cs then linkPieces false false ps else ps
  { t with content := String.ofList cs, children := some (inlinesOf ps) }

/-- The markup of the box with which the first paragraph of an item starts. -/
def itemBox? (item paragraph text : Token) : Option String :=
  if item.kind = .itemOpen && paragraph.kind = .paragraphOpen && text.kind = .inline then
    box? text.content.toList
  else none

/-- Reads the content of all inline tokens, and marks the items that start with a box. -/
def readContents (definitions : Definitions) : List Token → List Token
  | [] => []
  | t :: ts =>
    let alone := if t.kind = .inline then readContent definitions none t else t
    match ts with
    | u :: v :: rest =>
      match itemBox? t u v with
      | some box =>
        { t with attrs := [("class", .str Token.taskClass)] } :: u ::
          readContent definitions (some box) v :: readContents definitions rest
      | none => alone :: readContents definitions (u :: v :: rest)
    | ts => alone :: readContents definitions ts

/-- The tokens of a Markdown text. -/
def tokens (s : String) : List Token :=
  let cs := (Text.unifyLineEnds s.toList).map fun c => if c = '\x00' then '\ufffd' else c
  let b := blocksOf cs
  readContents b.definitions b.tokens.toList

end MarkdownAdf.Markdown
