import MarkdownAdf.Yaml.Cursor
import MarkdownAdf.Yaml.Scalar.Form
import MarkdownAdf.Text.Quoted

/-!
# Writing scalars

A text is written without quotes where it reads back as itself, else between single quotes, and
between double quotes where it holds characters that have to be escaped. Texts are folded behind
column eighty.
-/

namespace MarkdownAdf.Yaml

/-- What is written so far, backwards, and how it ends. -/
structure Pen where
  written : List Char := []
  column : Nat := 0
  /-- the last thing written is a blank or the start of a line -/
  spaced : Bool := true
  /-- nothing but indentation and item marks stands on the line -/
  indenting : Bool := true
  deriving Repr

namespace Pen

/-- The column behind which texts are folded. -/
def width : Nat := 80

def put (p : Pen) (cs : List Char) : Pen :=
  { p with written := cs.reverse ++ p.written, column := p.column + cs.length }

def lineBreak (p : Pen) (c : Char := '\n') : Pen :=
  { written := c :: p.written, column := 0, spaced := true, indenting := true }

/-- Goes to a column at the start of a line, on a new line unless the line has room for it. -/
def indentTo (p : Pen) (column : Nat) : Pen :=
  let p := if !p.indenting || column < p.column || (p.column = column && !p.spaced) then p.lineBreak
    else p
  if p.column < column then
    { p.put (List.replicate (column - p.column) ' ') with spaced := true }
  else p

/-- Writes a mark; `gap` asks for a blank before it, `item` says that items may follow on the
line. -/
def mark (p : Pen) (cs : List Char) (gap : Bool) (item : Bool := false) : Pen :=
  let cs := if gap && !p.spaced then ' ' :: cs else cs
  { p.put cs with spaced := false, indenting := p.indenting && item }

end Pen

/-- What stands against the ways to write a text. -/
structure Analysis where
  multiline : Bool
  plainAllowed : Bool
  singleAllowed : Bool
  deriving DecidableEq, Repr

/-- Characters that no plain scalar starts with. -/
def isIndicator (c : Char) : Bool := "#,[]\x7b\x7d&*!|>'\"%@`".toList.contains c

/-- Whether a character may be written as it is. -/
def isWritable (c : Char) : Bool :=
  let n := c.toNat
  c = '\n' || (0x20 ≤ n && n ≤ 0x7E) ||
    ((n == 0x85 || (0xA0 ≤ n && n ≤ 0xD7FF) || (0xE000 ≤ n && n ≤ 0xFFFD) ||
      (0x10000 ≤ n && n < 0x10FFFF)) && c != '\ufeff')

/-- Whether the text has a mark that a plain scalar may not have inside; `before` is the character
before. -/
def hasInnerMark (before : Char) : List Char → Bool
  | [] => false
  | c :: rest =>
    (c = ':' && isGap rest.head?) || (c = '#' && isGap (some before)) || hasInnerMark c rest

/-- Whether the text starts like something else than a plain scalar. -/
def hasOuterMark (text : List Char) : Bool :=
  let start := text.take 3
  start == ['-', '-', '-'] || start == ['.', '.', '.'] ||
    match text with
    | [] => false
    | c :: rest => isIndicator c || ((c = '?' || c = ':' || c = '-') && isGap rest.head?)

/-- Whether two characters of two classes stand side by side. -/
def hasPair (p q : Char → Bool) : List Char → Bool
  | c :: d :: rest => (p c && q d) || hasPair p q (d :: rest)
  | _ => false

def analyze (text : List Char) : Analysis :=
  let isSpace (c : Char) : Bool := c = ' '
  let special := text.any (!isWritable ·) || hasPair isSpace isBreak text
  let breakThenSpace := hasPair isBreak isSpace text
  let edge (c : Option Char) : Bool := c.any fun c => isSpace c || isBreak c
  let multiline := text.any isBreak
  let marked := hasOuterMark text || match text with
    | [] => false
    | c :: rest => hasInnerMark c rest
  { multiline,
    plainAllowed := !special && !multiline && !marked && !edge text.head? && !edge text.getLast?,
    singleAllowed := !special && !breakThenSpace }

/-- How a text is written. -/
inductive Quoting where
  | plain
  | single
  | double
  deriving DecidableEq, Repr

/-- The way to write a scalar; `own` says that its form implies its type, `key` that it has to stand
on one line before a colon. -/
def quotingOf (own key : Bool) (text : List Char) : Quoting :=
  let a := analyze text
  if own && a.plainAllowed && !(key && text.isEmpty) then .plain
  else if a.singleAllowed && !(key && a.multiline) then .single
  else .double

/-! ### The three ways -/

/-- Writes the words of a plain text; `split` allows to fold it. -/
def Pen.plainWords (indent : Nat) (split : Bool) (p : Pen) : (fuel : Nat) → List Char → Pen
  | 0, _ => p
  | _, [] => p
  | fuel + 1, cs =>
    let word := cs.takeWhile (· ≠ ' ')
    let rest := cs.dropWhile (· ≠ ' ')
    let p := p.put word
    let spaces := rest.takeWhile (· = ' ')
    let rest := rest.dropWhile (· = ' ')
    let p := if spaces.length = 1 && Pen.width < p.column && split then
        { p.indentTo indent with spaced := false, indenting := false }
      else p.put spaces
    p.plainWords indent split fuel rest

def Pen.plain (p : Pen) (indent : Nat) (split : Bool) (text : List Char) : Pen :=
  if text.isEmpty then p
  else
    let p := if p.spaced then p else p.put [' ']
    { p with spaced := false, indenting := false }.plainWords indent split (text.length + 1) text

/-- Writes the inside of single quotes; `start` says that nothing is written yet. -/
def Pen.singleParts (indent : Nat) (split start : Bool) (p : Pen) : (fuel : Nat) → List Char → Pen
  | 0, _ => p
  | _, [] => p
  | fuel + 1, c :: cs =>
    if c = ' ' then
      let spaces := cs.takeWhile (· = ' ')
      let rest := cs.dropWhile (· = ' ')
      let p := if spaces.isEmpty && Pen.width < p.column && split && !start && !rest.isEmpty then
          p.indentTo indent
        else p.put (c :: spaces)
      p.singleParts indent split false fuel rest
    else if isBreak c then
      let breaks := cs.takeWhile isBreak
      let p := if c = '\n' then p.lineBreak else p
      let p := (c :: breaks).foldl (fun p b => p.lineBreak b) p
      (p.indentTo indent).singleParts indent split false fuel (cs.dropWhile isBreak)
    else if c = '\'' then (p.put ['\'', '\'']).singleParts indent split false fuel cs
    else
      let inWord (c : Char) : Bool := c ≠ ' ' && c ≠ '\'' && !isBreak c
      let word := c :: cs.takeWhile inWord
      (p.put word).singleParts indent split false fuel (cs.dropWhile inWord)

def Pen.single (p : Pen) (indent : Nat) (split : Bool) (text : List Char) : Pen :=
  let p := p.mark ['\''] true
  (p.singleParts indent split true (text.length + 1) text).mark ['\''] false

/-- The letter that escapes a character between double quotes. -/
def escapeLetter? : Char → Option Char
  | '\x00' => some '0'
  | '\x07' => some 'a'
  | '\x08' => some 'b'
  | '\t' => some 't'
  | '\n' => some 'n'
  | '\x0b' => some 'v'
  | '\x0c' => some 'f'
  | '\r' => some 'r'
  | '\x1b' => some 'e'
  | '"' => some '"'
  | '\\' => some '\\'
  | '\u0085' => some 'N'
  | '\u00a0' => some '_'
  | '\u2028' => some 'L'
  | '\u2029' => some 'P'
  | _ => none

/-- Whether a character stands as it is between double quotes. -/
def isBare (c : Char) : Bool :=
  let n := c.toNat
  !(c = '"' || c = '\\' || c = '\ufeff' || c = '\u2028' || c = '\u2029') &&
    ((0x20 ≤ n && n ≤ 0x7E) || (0xA0 ≤ n && n ≤ 0xD7FF) || (0xE000 ≤ n && n ≤ 0xFFFD))

/-- An escaped character. -/
def escaped (c : Char) : List Char :=
  match escapeLetter? c with
  | some letter => ['\\', letter]
  | none =>
    let n := c.toNat
    let digits (w : Nat) : List Char := (Text.hexDigits w n).map Char.toUpper
    if n ≤ 0xFF then '\\' :: 'x' :: digits 2
    else if n ≤ 0xFFFF then '\\' :: 'u' :: digits 4
    else '\\' :: 'U' :: digits 8

/-- Writes the inside of double quotes. `pending` are the characters, backwards, that are not
written yet, `index` the number of characters read. A long line is folded at a space or behind an
escape, and an escape counts one character less than it takes. -/
def Pen.doubleParts (indent : Nat) (split : Bool) (length : Nat) (p : Pen) (pending : List Char)
    (index : Nat) : List Char → Pen
  | [] => p.put pending.reverse
  | c :: rest =>
    let bare := isBare c
    let p := if bare then p else (p.put pending.reverse).put (escaped c)
    -- the characters up to this one that wait to be written, without and with it
    let before := if bare then pending else []
    let here := if bare then c :: pending else []
    let column := p.column + before.length - if bare then 0 else 1
    let fold := 0 < index && index + 1 < length && (c = ' ' || before.isEmpty) &&
      Pen.width < column && split
    if fold then
      let p := (p.put (before.reverse ++ ['\\'])).indentTo indent
      let p := { p with spaced := false, indenting := false }
      let next := if bare then some c else rest.head?
      let p := if next = some ' ' then p.put ['\\'] else p
      p.doubleParts indent split length (if bare then [c] else []) (index + 1) rest
    else p.doubleParts indent split length here (index + 1) rest

def Pen.double (p : Pen) (indent : Nat) (split : Bool) (text : List Char) : Pen :=
  let p := p.mark ['"'] true
  (p.doubleParts indent split text.length [] 0 text).mark ['"'] false

/-- Writes a scalar. -/
def Pen.scalar (p : Pen) (indent : Nat) (own key : Bool) (text : List Char) : Pen :=
  match quotingOf own key text with
  | .plain => p.plain indent (!key) text
  | .single => p.single indent (!key) text
  | .double => p.double indent (!key) text

end MarkdownAdf.Yaml
