/-!
# Punycode

A label of a host name that holds characters outside ASCII is written in ASCII alone: first its
ASCII characters, then, behind a hyphen, where the others go. Each insertion is a number in base 36
whose digits end at thresholds that follow the sizes of the earlier numbers.
-/

namespace MarkdownAdf.Text.Punycode

/-- The character of a digit in base 36. -/
def digitChar (d : Nat) : Char := Char.ofNat (if d < 26 then 0x61 + d else 0x30 + (d - 26))

/-- The digit that a character writes. -/
def digitOf? (c : Char) : Option Nat :=
  if 'a' ≤ c && c ≤ 'z' then some (c.toNat - 'a'.toNat)
  else if 'A' ≤ c && c ≤ 'Z' then some (c.toNat - 'A'.toNat)
  else if c.isDigit then some (c.toNat - '0'.toNat + 26)
  else none

/-- From this digit on a number goes on behind its digit in place `k / 36`. -/
def threshold (bias k : Nat) : Nat := min 26 (max 1 (k - bias))

/-- Divides a distance by 35 until it is small. -/
def shrink (distance k : Nat) : Nat :=
  if h : 455 < distance then shrink (distance / 35) (k + 36)
  else k + 36 * distance / (distance + 38)
termination_by distance
decreasing_by omega

/-- The bias for the next number after one of a given size, with `points` characters in place. -/
def adapt (distance points : Nat) (first : Bool) : Nat :=
  let d := if first then distance / 700 else distance / 2
  shrink (d + d / points) 0

/-! ### Writing -/

/-- The digits of a number, the lowest first. -/
def encodeNumber (bias k n : Nat) : List Char :=
  if h : n < threshold bias k then [digitChar n]
  else
    digitChar (threshold bias k + (n - threshold bias k) % (36 - threshold bias k)) ::
      encodeNumber bias (k + 36) ((n - threshold bias k) / (36 - threshold bias k))
termination_by n
decreasing_by
  have h₁ : 1 ≤ threshold bias k := by unfold threshold; omega
  have h₂ := Nat.div_le_self (n - threshold bias k) (36 - threshold bias k)
  omega

structure Encoder where
  digits : List Char := []
  distance : Nat := 0
  bias : Nat := 72
  placed : Nat
  first : Bool := true

/-- Goes over one character of the text while the characters of code `code` are placed. -/
def Encoder.step (code : Nat) (e : Encoder) (c : Char) : Encoder :=
  if c.toNat < code then { e with distance := e.distance + 1 }
  else if c.toNat = code then
    { digits := e.digits ++ encodeNumber e.bias 36 e.distance
      distance := 0
      bias := adapt e.distance (e.placed + 1) e.first
      placed := e.placed + 1
      first := false }
  else e

/-- Places the characters of each of the codes, which are in ascending order; `next` is the lowest
code that has not been looked at. -/
def encodeCodes (text : List Char) (next : Nat) : List Nat → Encoder → Encoder
  | [], e => e
  | code :: codes, e =>
    let e := { e with distance := e.distance + (code - next) * (e.placed + 1) }
    let e := text.foldl (Encoder.step code) e
    encodeCodes text (code + 1) codes { e with distance := e.distance + 1 }

/-- The label in ASCII, without the mark that it is one. -/
def encode (text : List Char) : List Char :=
  let basic := text.filter (·.toNat < 0x80)
  let others := (text.filter (0x80 ≤ ·.toNat)).map (·.toNat)
  let codes := (others.mergeSort (· ≤ ·)).eraseDups
  let digits := (encodeCodes text 0x80 codes { placed := basic.length }).digits
  if basic.isEmpty then digits else basic ++ '-' :: digits

/-! ### Reading -/

/-- Reads a number, the lowest digit first; `weight` is what the next digit counts. -/
def decodeNumber (bias k weight n : Nat) : List Char → Option (Nat × List Char)
  | [] => none
  | c :: rest =>
    match digitOf? c with
    | none => none
    | some d =>
      let t := threshold bias k
      let n := n + d * weight
      if d < t then some (n, rest) else decodeNumber bias (k + 36) (weight * (36 - t)) n rest

/-- The place behind the last character put in, with its code. -/
structure Decoder where
  text : List Char
  place : Nat := 0
  code : Nat := 0x80
  bias : Nat := 72
  first : Bool := true

/-- Puts in the characters that the digits name; no digits may be left over, and every code has to
be that of a character. `fuel` bounds the number of characters. -/
def decodeDigits (fuel : Nat) (d : Decoder) (digits : List Char) : Option (List Char) :=
  match fuel, digits with
  | _, [] => some d.text
  | 0, _ => none
  | fuel + 1, digits =>
    match decodeNumber d.bias 36 1 0 digits with
    | none => none
    | some (n, rest) =>
      let size := d.text.length + 1
      let code := d.code + (d.place + n) / size
      let place := (d.place + n) % size
      if code.isValidChar then
        decodeDigits fuel
          { text := d.text.take place ++ Char.ofNat code :: d.text.drop place
            place := place + 1
            code
            bias := adapt n size d.first
            first := false } rest
      else none

/-- The label that a text in ASCII writes. -/
def decode? (cs : List Char) : Option (List Char) :=
  if cs.all (·.toNat < 0x80) then
    let tail := (cs.reverse.takeWhile (· ≠ '-')).reverse
    let basic := cs.take (cs.length - tail.length - 1)
    decodeDigits tail.length { text := basic } tail
  else none

end MarkdownAdf.Text.Punycode
