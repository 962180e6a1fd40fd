import MarkdownAdf.Number.Binary64

/-!
# Shortest decimals

A finite double is written with the fewest digits that read back as the same double; of two such
decimals of equal length the nearer one is taken, and of two equally near ones the even one.
-/

namespace MarkdownAdf

/-- The decimal `0.d₁d₂… * 10 ^ point` given by the number `d₁d₂…` and its count of digits. -/
structure Decimal where
  digits : Nat
  point : Int
  deriving DecidableEq, Repr

namespace Decimal

/-- Drops trailing zeros of the digits; they do not change the decimal. -/
def dropZeros : (fuel : Nat) → Nat → Nat
  | 0, n => n
  | fuel + 1, n => if n % 10 = 0 && n ≠ 0 then dropZeros fuel (n / 10) else n

/-- The decimal `digits * 10 ^ (-scale)`. -/
def ofScaled (digits : Nat) (scale : Int) : Decimal :=
  ⟨dropZeros (toString digits).length digits, (toString digits).length - scale⟩

end Decimal

namespace Binary64

/-- The least `z` with `den ≤ num * 10 ^ z`, looked for up to `fuel`. -/
def leadingZeros (num den : Nat) : (fuel : Nat) → Nat
  | 0 => 0
  | fuel + 1 => if den ≤ num then 0 else leadingZeros (10 * num) den fuel + 1

/-- The position of the decimal point: `10 ^ (p - 1) ≤ num / den < 10 ^ p`. -/
def decimalPoint (num den : Nat) : Int :=
  if den ≤ num then (toString (num / den)).length
  else 1 - (leadingZeros num den 400 : Int)

/-- Looks for a decimal of `digits`, `digits + 1`, … digits in the interval from `low` to `high`
around `num`, all three over `den`; `closed` says whether its ends belong to it. -/
def shortestFrom (low num high den : Nat) (closed : Bool) (point : Int) (digits : Nat) :
    (fuel : Nat) → Decimal
  | 0 => Decimal.ofScaled (num / den) 0
  | fuel + 1 =>
    let scale := (digits : Int) - point
    let up := Nat.pow 10 scale.toNat
    let down := den * Nat.pow 10 (-scale).toNat
    let below := num * up / down
    let inside (c : Nat) : Bool :=
      if closed then low * up ≤ c * down && c * down ≤ high * up
      else low * up < c * down && c * down < high * up
    let middle := (2 * below + 1) * down
    let aboveIsNearer := middle < 2 * (num * up) || (middle = 2 * (num * up) && below % 2 = 1)
    if inside below && !(inside (below + 1) && aboveIsNearer) then Decimal.ofScaled below scale
    else if inside (below + 1) then Decimal.ofScaled (below + 1) scale
    else shortestFrom low num high den closed point (digits + 1) fuel

/-- The shortest decimal of a finite double that is not zero, without its sign. -/
def shortest (x : Binary64) : Decimal :=
  let m := x.significand
  -- the neighbour below a power of two is half as far away as the neighbour above it
  let narrow := x.fractionField = 0 && 1 < x.exponentField
  let up := Nat.pow 2 x.exponent.toNat
  let den := 4 * Nat.pow 2 (-x.exponent).toNat
  let low := (4 * m - if narrow then 1 else 2) * up
  let num := 4 * m * up
  let high := (4 * m + 2) * up
  shortestFrom low num high den (m % 2 = 0) (decimalPoint num den) 1 17

/-- How a decimal is written. -/
structure Layout where
  /-- decimals from `10 ^ least` on are written without an exponent … -/
  least : Int
  /-- … as far as they stay below `10 ^ bound` -/
  bound : Int
  /-- an exponent has at least this many digits -/
  exponentDigits : Nat

/-- From `0.0001` on and below `10 ^ 16` no exponent is written; an exponent has at least two
digits. -/
def layout : Layout := ⟨-4, 16, 2⟩

def padLeft (width : Nat) (fill : Char) (s : String) : String :=
  String.ofList (List.replicate (width - s.length) fill) ++ s

/-- Writes a decimal; a whole number keeps one digit after the point. -/
def Layout.write (l : Layout) (d : Decimal) : String :=
  let ds := (toString d.digits).toList
  let e := d.point - 1
  if l.least ≤ e && e < l.bound then
    if d.point ≤ 0 then
      "0." ++ String.ofList (List.replicate (-d.point).toNat '0' ++ ds)
    else
      let p := d.point.toNat
      let whole := ds.take p ++ List.replicate (p - ds.length) '0'
      let rest := ds.drop p
      String.ofList whole ++ "." ++ (if rest.isEmpty then "0" else String.ofList rest)
  else
    let mantissa := match ds with
      | [] => ""
      | [c] => String.singleton c
      | c :: rest => String.ofList (c :: '.' :: rest)
    let sign := if e < 0 then "-" else "+"
    mantissa ++ "e" ++ sign ++ padLeft l.exponentDigits '0' (toString e.natAbs)

/-- The text of a double. -/
def text (x : Binary64) : String :=
  if x.isNaN then "nan"
  else
    let sign := if x.isNegative then "-" else ""
    if x.isInfinite then sign ++ "inf"
    else if x.significand = 0 then sign ++ "0.0"
    else sign ++ layout.write x.shortest

end Binary64

end MarkdownAdf
