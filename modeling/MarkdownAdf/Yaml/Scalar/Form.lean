import MarkdownAdf.Yaml.Tag

/-!
# The forms of plain scalars

A plain scalar has the tag of the first form that it fits: a truth value, a float, an integer, the
merge mark, null, a time, the value mark; otherwise it is a text.
-/

namespace MarkdownAdf.Yaml

def truthWords : List String :=
  ["yes", "Yes", "YES", "no", "No", "NO", "true", "True", "TRUE", "false", "False", "FALSE", "on",
    "On", "ON", "off", "Off", "OFF"]

def nullWords : List String := ["", "~", "null", "Null", "NULL"]

/-- A digit, or the underscore that may stand among digits. -/
def isDigitOrBar (c : Char) : Bool := c.isDigit || c = '_'

/-- Drops the sign of a number. -/
def dropSign : List Char → List Char
  | '-' :: rest => rest
  | '+' :: rest => rest
  | cs => cs

/-- Cuts a list at every occurrence of a character. -/
def cutAt (mark : Char) : List Char → List (List Char)
  | [] => [[]]
  | c :: rest =>
    match cutAt mark rest with
    | part :: parts => if c = mark then [] :: part :: parts else (c :: part) :: parts
    | [] => [[c]]

/-- A part of a number in base sixty: one digit, or two digits below sixty. -/
def isSixtieth : List Char → Bool
  | [c] => c.isDigit
  | [c, d] => '0' ≤ c && c ≤ '5' && d.isDigit
  | _ => false

/-- Whether a part is not empty and all in a class. -/
def allOf (p : Char → Bool) (cs : List Char) : Bool := !cs.isEmpty && cs.all p

def isOctalOrBar (c : Char) : Bool := ('0' ≤ c && c ≤ '7') || c = '_'

def isHexOrBar (c : Char) : Bool :=
  c.isDigit || ('a' ≤ c && c ≤ 'f') || ('A' ≤ c && c ≤ 'F') || c = '_'

/-- Digits of which the first is not zero. -/
def isCounting : List Char → Bool
  | c :: rest => '1' ≤ c && c ≤ '9' && rest.all isDigitOrBar
  | [] => false

/-- An integer: binary, octal, hexadecimal, decimal or in base sixty. -/
def isInteger (text : List Char) : Bool :=
  match dropSign text with
  | ['0'] => true
  | '0' :: 'b' :: rest => allOf (fun c => c = '0' || c = '1' || c = '_') rest
  | '0' :: 'x' :: rest => allOf isHexOrBar rest
  | '0' :: rest => allOf isOctalOrBar rest
  | rest =>
    match cutAt ':' rest with
    | first :: parts => isCounting first && parts.all isSixtieth
    | [] => false

/-- What may follow the fraction of a float: nothing, or an exponent with its sign. -/
def isExponent : List Char → Bool
  | [] => true
  | e :: sign :: digits =>
    (e = 'e' || e = 'E') && (sign = '-' || sign = '+') && allOf Char.isDigit digits
  | _ => false

/-- Digits of which the first is no underscore. -/
def startsDigit (cs : List Char) : Bool := cs.head?.any Char.isDigit

/-- A float without a sign that starts with a digit: decimal, or in base sixty. -/
def isUnsignedFloat (text : List Char) : Bool :=
  let whole := text.takeWhile (· ≠ '.')
  match text.dropWhile (· ≠ '.') with
  | [] => false
  | _ :: rest =>
    match cutAt ':' whole with
    | [digits] =>
      startsDigit digits && digits.all isDigitOrBar && isExponent (rest.dropWhile isDigitOrBar)
    | first :: parts =>
      startsDigit first && first.all isDigitOrBar && parts.all isSixtieth && rest.all isDigitOrBar
    | [] => false

/-- A float. -/
def isFloat (text : List Char) : Bool :=
  match dropSign text with
  | '.' :: rest =>
    ["inf", "Inf", "INF"].contains (String.ofList rest) ||
      (text.head? = some '.' &&
        (["nan", "NaN", "NAN"].contains (String.ofList rest) ||
          (startsDigit rest && isExponent (rest.dropWhile isDigitOrBar))))
  | rest => isUnsignedFloat rest

/-- A time or a day, by its parts. -/
structure Stamp where
  year : Nat
  month : Nat
  day : Nat
  /-- hour, minute, second and millionths -/
  clock : Option (Nat × Nat × Nat × Nat) := none
  /-- the minutes east of Greenwich, when they are given -/
  offset : Option Int := none
  deriving DecidableEq, Repr

/-- Reads a number of at least `least` and at most `most` digits. -/
def readDigits? (least most : Nat) (cs : List Char) : Option (Nat × List Char) :=
  let digits := (cs.take most).takeWhile Char.isDigit
  if digits.length < least then none
  else some (digits.foldl (fun n d => 10 * n + (d.toNat - 48)) 0, cs.drop digits.length)

def readChar? (c : Char) : List Char → Option (List Char)
  | d :: rest => if c = d then some rest else none
  | [] => none

def skipBlanks (cs : List Char) : List Char := cs.dropWhile fun c => c = ' ' || c = '\t'

/-- The millionths that the digits of a fraction write. -/
def millionths (digits : List Char) : Nat :=
  ((digits.take 6) ++ List.replicate (6 - digits.length) '0').foldl
    (fun n d => 10 * n + (d.toNat - 48)) 0

/-- Reads the zone at the end of a time: nothing, `Z`, or an offset. -/
def readZone? (cs : List Char) : Option (Option Int) :=
  match cs with
  | [] => some none
  | _ =>
    match skipBlanks cs with
    | ['Z'] => some (some 0)
    | sign :: rest => do
      let (hours, rest) ← readDigits? 1 2 rest
      let minutes ← match rest with
        | [] => some 0
        | ':' :: rest => do
          let (minutes, rest) ← readDigits? 2 2 rest
          if rest.isEmpty then some minutes else none
        | _ => none
      let offset : Int := 60 * hours + minutes
      if sign = '+' then some (some offset) else if sign = '-' then some (some (-offset)) else none
    | [] => none

/-- Reads the clock behind a day. -/
def readClock? (cs : List Char) : Option ((Nat × Nat × Nat × Nat) × Option Int) := do
  let cs ← match cs with
    | 'T' :: rest => some rest
    | 't' :: rest => some rest
    | ' ' :: rest => some (skipBlanks rest)
    | '\t' :: rest => some (skipBlanks rest)
    | _ => none
  let (hour, cs) ← readDigits? 1 2 cs
  let (minute, cs) ← readDigits? 2 2 (← readChar? ':' cs)
  let (second, cs) ← readDigits? 2 2 (← readChar? ':' cs)
  let (fraction, cs) := match cs with
    | '.' :: rest => (rest.takeWhile Char.isDigit, rest.dropWhile Char.isDigit)
    | cs => ([], cs)
  let offset ← readZone? cs
  return ((hour, minute, second, millionths fraction), offset)

/-- Reads a time; `exact` asks for two digits in a month and a day. -/
def readStamp? (exact : Bool) (cs : List Char) : Option Stamp := do
  let (year, cs) ← readDigits? 4 4 cs
  let (month, cs) ← readDigits? (if exact then 2 else 1) 2 (← readChar? '-' cs)
  let (day, cs) ← readDigits? (if exact then 2 else 1) 2 (← readChar? '-' cs)
  if cs.isEmpty then return { year, month, day }
  else
    let (clock, offset) ← readClock? cs
    return { year, month, day, clock := some clock, offset }

/-- A day with two digits in each part, or a time. -/
def isStamp (text : List Char) : Bool :=
  (readStamp? true text).isSome || (readStamp? false text).any fun s => s.clock.isSome

/-- The tag that the form of a plain scalar implies. -/
def impliedTag (text : String) : Tag :=
  let cs := text.toList
  if truthWords.contains text then .bool
  else if isFloat cs then .float
  else if isInteger cs then .int
  else if text = "<<" then .merge
  else if nullWords.contains text then .null
  else if isStamp cs then .timestamp
  else if text = "=" then .value
  else .str

end MarkdownAdf.Yaml
