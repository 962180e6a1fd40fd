import MarkdownAdf.Markdown.Line

/-!
# Marks of blocks

What the content of a single line can open: a rule, a heading, a fence, a quote or a list item. The
column is that of the container; content four columns behind it is code and opens nothing.
-/

namespace MarkdownAdf.Markdown

/-- Drops characters of a class from the end. -/
def dropBack (p : Char → Bool) (cs : List Char) : List Char := (cs.reverse.dropWhile p).reverse

namespace Line

/-- The markup of a rule: three or more of one mark, with blanks between them. -/
def rule? (l : Line) (column : Nat) : Option String :=
  match l.body with
  | [] => none
  | c :: cs =>
    if !l.isCode column && (c = '*' || c = '-' || c = '_') && cs.all (fun d => d = c || isGap d) &&
        2 ≤ cs.count c then
      some (String.ofList (List.replicate (cs.count c + 2) c))
    else none

/-- The level and text of a heading that is marked at its front. Marks at its end belong to it when
a blank stands before them. -/
def heading? (l : Line) (column : Nat) : Option (Nat × List Char) :=
  let level := (l.body.takeWhile (· = '#')).length
  let rest := l.body.drop level
  if !l.isCode column && 1 ≤ level && level ≤ 6 && rest.head?.all isGap then
    let text := dropBack isGap rest
    let front := dropBack (· = '#') text
    some (level, if front.getLast?.any isGap then front else text)
  else none

/-- The level of the heading that a line underlines, with its mark. -/
def underline? (l : Line) : Option (Nat × Char) :=
  match l.body with
  | [] => none
  | c :: cs =>
    if (c = '=' || c = '-') && (cs.dropWhile (· = c)).all isGap then
      some (if c = '=' then 1 else 2, c)
    else none

/-- The marks that open fenced code, and the text behind them. -/
def fence? (l : Line) (column : Nat) : Option (List Char × List Char) :=
  match l.body with
  | [] => none
  | c :: _ =>
    let marks := l.body.takeWhile (· = c)
    let info := l.body.drop marks.length
    if !l.isCode column && (c = '~' || c = '`') && 3 ≤ marks.length &&
        !(c = '`' && info.contains '`') then
      some (marks, info)
    else none

/-- Whether the line closes fenced code that `marks` opened. -/
def closesFence (l : Line) (column : Nat) (marks : List Char) : Bool :=
  match marks with
  | [] => false
  | c :: _ =>
    let run := l.body.takeWhile (· = c)
    !l.isCode column && marks.length ≤ run.length && (l.body.drop run.length).all isGap

def opensQuote (l : Line) (column : Nat) : Bool := !l.isCode column && l.body.head? = some '>'

/-- The line without the mark of a quote and the blank behind it. A tab behind the mark of which the
blank is only a part stays, one column shorter. -/
def unquote (l : Line) : Line :=
  let column := (l.indent + 1).toNat
  let inner (chars : List Char) (adjust start : Nat) (blank : Bool) : Line :=
    { chars
      shift := (chars.takeWhile isGap).length
      indent := (columnOf (l.base + adjust) start chars : Int) - start
      base := column + blank.toNat
      ended := l.ended }
  match l.body.drop 1 with
  | ' ' :: rest => inner rest 0 (column + 1) true
  | '\t' :: rest =>
    if (l.base + column) % 4 = 3 then inner rest 0 (column + 1) true
    else inner ('\t' :: rest) 1 column true
  | rest => inner rest 0 column false

end Line

/-- The mark of a list item: a sign, for ordered lists behind a number. -/
structure Marker where
  number : Option (List Char)
  sign : Char
  deriving DecidableEq, Repr

namespace Marker

/-- The number of characters that the mark takes. -/
def width (m : Marker) : Nat := (m.number.getD []).length + 1

/-- Reads the mark at the front of a content; a blank or nothing is behind it. -/
def read? (body : List Char) : Option Marker :=
  let digits := body.takeWhile Char.isDigit
  match body.drop digits.length with
  | [] => none
  | c :: rest =>
    if !rest.head?.all isGap then none
    else if digits.isEmpty then
      if c = '*' || c = '-' || c = '+' then some ⟨none, c⟩ else none
    else if digits.length ≤ 9 && (c = '.' || c = ')') then some ⟨some digits, c⟩
    else none

/-- Whether two marks belong to one list. -/
def joins (m n : Marker) : Bool := m.number.isSome = n.number.isSome && m.sign = n.sign

/-- Whether an item of this mark may follow a paragraph at once: only a first item with content. -/
def interrupts (m : Marker) (body : List Char) : Bool :=
  (match m.number with
    | some digits => digits.dropWhile (· = '0') = ['1']
    | none => true) &&
    !(body.drop m.width).all isGap

end Marker

/-- The line of an item from its content on, and the column at which the content of the item stands.
Blanks that make the content code belong to the content. -/
def Line.item (l : Line) (m : Marker) : Line × Nat :=
  let start := l.indent.toNat + m.width
  let rest := l.body.drop m.width
  let indent := columnOf l.base start rest
  let gap := if rest.all isGap || indent - start > 4 then 1 else indent - start
  ({ l with shift := l.shift + m.width + (rest.takeWhile isGap).length, indent }, start + gap)

end MarkdownAdf.Markdown
