import MarkdownAdf.Text.Blank

/-!
# Decimal digits and integer literals

A decimal digit is a character of Unicode category Nd. Every script writes its ten digits in a row,
so the table holds the zeros alone.
-/

namespace MarkdownAdf.Text

/-- The zero of each script that has decimal digits. -/
def zeroDigits : List Nat := [
  0x0030, 0x0660, 0x06F0, 0x07C0, 0x0966, 0x09E6, 0x0A66, 0x0AE6, 0x0B66, 0x0BE6, 0x0C66, 0x0CE6,
  0x0D66, 0x0DE6, 0x0E50, 0x0ED0, 0x0F20, 0x1040, 0x1090, 0x17E0, 0x1810, 0x1946, 0x19D0, 0x1A80,
  0x1A90, 0x1B50, 0x1BB0, 0x1C40, 0x1C50, 0xA620, 0xA8D0, 0xA900, 0xA9D0, 0xA9F0, 0xAA50, 0xABF0,
  0xFF10, 0x104A0, 0x10D30, 0x11066, 0x110F0, 0x11136, 0x111D0, 0x112F0, 0x11450, 0x114D0, 0x11650,
  0x116C0, 0x11730, 0x118E0, 0x11950, 0x11C50, 0x11D50, 0x11DA0, 0x16A60, 0x16AC0, 0x16B50,
  0x1D7CE, 0x1D7D8, 0x1D7E2, 0x1D7EC, 0x1D7F6, 0x1E140, 0x1E2F0, 0x1E950, 0x1FBF0]

/-- The value of a decimal digit of any script. -/
def digitValue? (c : Char) : Option Nat :=
  (zeroDigits.find? fun z => z ≤ c.toNat && c.toNat < z + 10).map (c.toNat - ·)

/-- The digits of an unsigned literal in reading order: single underscores may stand between two
digits and nowhere else. `afterDigit` says that the last character read was a digit. -/
def digitRun? (afterDigit : Bool) : List Char → Option (List Nat)
  | [] => if afterDigit then some [] else none
  | c :: rest =>
    if c = '_' then if afterDigit then digitRun? false rest else none
    else
      match digitValue? c with
      | some d => (digitRun? true rest).map (d :: ·)
      | none => none

/-- The most decimal digits that an integer may have where it is turned into text, or read from a
decimal scalar of a document. -/
def maxDigits : Nat := 4300

/-- The number that a row of decimal digits writes. -/
def ofDigits (digits : List Nat) : Nat := digits.foldl (fun n d => 10 * n + d) 0

/-- The blanks that may stand around a number: all but the four information separators. -/
def isNumberPadding (c : Char) : Bool := isBlank c && !(0x1C ≤ c.toNat && c.toNat ≤ 0x1F)

/-- Reads an integer literal of any size: one sign, then digits, with padding around the whole. -/
def readInteger? (s : String) : Option Int :=
  match stripList isNumberPadding s.toList with
  | '+' :: rest => (digitRun? false rest).map fun ds => (ofDigits ds : Int)
  | '-' :: rest => (digitRun? false rest).map fun ds => -(ofDigits ds : Int)
  | cs => (digitRun? false cs).map fun ds => (ofDigits ds : Int)

end MarkdownAdf.Text
