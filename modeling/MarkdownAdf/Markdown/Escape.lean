import MarkdownAdf.Markdown.EntityName
import MarkdownAdf.Text.Digit

/-!
# Escapes

A backslash takes the meaning from the punctuation behind it, and a reference between `&` and `;`
stands for a character by its name or its number.
-/

namespace MarkdownAdf.Markdown

/-- The characters that a backslash escapes: the punctuation of ASCII. -/
def isEscapable (c : Char) : Bool :=
  let n := c.toNat
  (0x21 ≤ n && n ≤ 0x2F) || (0x3A ≤ n && n ≤ 0x40) || (0x5B ≤ n && n ≤ 0x60) ||
    (0x7B ≤ n && n ≤ 0x7E)

/-- The code points that a reference may name by number: no surrogates, no code points that will
never be characters, and no controls but the tab and the ends of line. -/
def isReferable (n : Nat) : Bool :=
  !(0xD800 ≤ n && n ≤ 0xDFFF) && !(0xFDD0 ≤ n && n ≤ 0xFDEF) && n % 0x10000 < 0xFFFE &&
    !(n ≤ 0x08) && n != 0x0B && !(0x0E ≤ n && n ≤ 0x1F) && !(0x7F ≤ n && n ≤ 0x9F) && n ≤ 0x10FFFF

/-- The number in a reference, read from the text behind `#` and before `;`, when it has no more
digits than allowed. -/
def referenceNumber? (decimals hexadecimals : Nat) : List Char → Option Nat
  | [] => none
  | c :: cs =>
    if c = 'x' || c = 'X' then
      if !cs.isEmpty && cs.length ≤ hexadecimals && cs.all isHexDigit then some (ofHex cs) else none
    else if cs.length < decimals && (c :: cs).all Char.isDigit then
      some (Text.ofDigits ((c :: cs).map hexDigit))
    else none

/-- The name or number between `&` and `;` at the front of a text that stands behind the `&`, with
the text behind the `;`. -/
def referenceBody? (cs : List Char) : Option (List Char × List Char) :=
  let body := cs.takeWhile fun c => c.isAlphanum || c = '#'
  match cs.drop body.length with
  | ';' :: rest => some (body, rest)
  | _ => none

/-- The characters of a named reference. -/
def named? (body : List Char) : Option (List Char) := entities.lookup (String.ofList body)

/-- Reads a reference in running text, behind its `&`. A number that names no character stands for
the replacement character. -/
def readReference? (cs : List Char) : Option (List Char × List Char) :=
  match referenceBody? cs with
  | some ('#' :: digits, rest) =>
    (referenceNumber? 7 6 digits).map fun n =>
      ([if isReferable n then Char.ofNat n else '\ufffd'], rest)
  | some (body, rest) => (named? body).map (·, rest)
  | none => none

/-- Reads a reference in an address or a title, behind its `&`. A number that names no character
leaves the reference as it is written. -/
def readQuotedReference? (cs : List Char) : Option (List Char × List Char) :=
  match referenceBody? cs with
  | some ('#' :: digits, rest) =>
    match referenceNumber? 8 8 digits with
    | some n => if isReferable n then some ([Char.ofNat n], rest) else none
    | none => none
  | some (body, rest) => (named? body).map (·, rest)
  | none => none

/-- Replaces the escapes and references of an address or a title by what they stand for; `skip`
counts the characters that an earlier one has covered. -/
def unescapeFrom (skip : Nat) : List Char → List Char
  | [] => []
  | c :: cs =>
    match skip with
    | k + 1 => unescapeFrom k cs
    | 0 =>
      if c = '\\' then
        match cs with
        | d :: _ => if isEscapable d then d :: unescapeFrom 1 cs else '\\' :: unescapeFrom 0 cs
        | [] => ['\\']
      else if c = '&' then
        match readQuotedReference? cs with
        | some (value, rest) => value ++ unescapeFrom (cs.length - rest.length) cs
        | none => '&' :: unescapeFrom 0 cs
      else c :: unescapeFrom 0 cs

def unescape (cs : List Char) : List Char := unescapeFrom 0 cs

end MarkdownAdf.Markdown
