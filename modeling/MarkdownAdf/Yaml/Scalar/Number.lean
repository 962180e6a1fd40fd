import MarkdownAdf.Number.Binary64
import MarkdownAdf.Text.Digit
import MarkdownAdf.Text.Fold
import MarkdownAdf.Yaml.Scalar.Form
import MarkdownAdf.Yaml.Token.Basic

/-!
# Numbers and truth values of scalars

The text of a scalar is read by its tag. A tag that is written may not fit the text, which is an
error.
-/

namespace MarkdownAdf.Yaml

/-- The value of a digit in a base up to sixteen. -/
def digitIn? (base : Nat) (c : Char) : Option Nat :=
  let c := c.toLower
  let n := if c.isDigit then c.toNat - 48 else if 'a' ≤ c && c ≤ 'f' then c.toNat - 87 else 16
  if n < base then some n else none

/-- The number that digits of a base write; there has to be one. -/
def readBase? (base : Nat) (cs : List Char) : Option Nat :=
  if cs.isEmpty then none
  else cs.foldlM (fun n c => (digitIn? base c).map (base * n + ·)) 0

/-- Numbers of base sixty, the most significant first. -/
def sixtieths (parts : List Int) : Int := parts.foldl (fun n d => 60 * n + d) 0

/-- The digits of a number without the bars among them. -/
def dropBars (text : String) : List Char := text.toList.filter (· ≠ '_')

/-- Reads a decimal part of an integer, which may not have too many digits. -/
def readPart? (part : List Char) : Option Int :=
  if (part.filter fun c => (Text.digitValue? c).isSome).length ≤ Text.maxDigits then
    Text.readInteger? (String.ofList part)
  else none

/-- The magnitude of an integer. -/
def magnitude? (cs : List Char) : Option Int :=
  match cs with
  | ['0'] => some 0
  | '0' :: 'b' :: rest => (readBase? 2 rest).map Int.ofNat
  | '0' :: 'x' :: rest => (readBase? 16 rest).map Int.ofNat
  | '0' :: rest => (readBase? 8 rest).map Int.ofNat
  | _ => ((cutAt ':' cs).mapM readPart?).map sixtieths

/-- The integer that a scalar writes. -/
def readInt (text : String) : Except Fault Int :=
  let cs := dropBars text
  if cs.isEmpty || (dropSign cs).isEmpty then .error .emptyNumber
  else
    match magnitude? (dropSign cs) with
    | some n => .ok (if cs.head? = some '-' then -n else n)
    | none => .error (.notANumber text)

/-- The decimal of digits, a point and an exponent. -/
def readDecimal? (cs : List Char) : Option Binary64 :=
  let whole := cs.takeWhile Char.isDigit
  let rest := cs.dropWhile Char.isDigit
  let (fraction, rest) := match rest with
    | '.' :: rest => (rest.takeWhile Char.isDigit, rest.dropWhile Char.isDigit)
    | rest => ([], rest)
  let digits := whole ++ fraction
  let value (e : Int) : Option Binary64 :=
    (readBase? 10 digits).map fun n => Binary64.ofDecimal false n (e - fraction.length)
  match rest with
  | [] => value 0
  | 'e' :: '-' :: ds => (readBase? 10 ds).bind fun n => value (-n)
  | 'e' :: '+' :: ds => (readBase? 10 ds).bind fun n => value n
  | 'e' :: ds => (readBase? 10 ds).bind fun n => value n
  | _ => none

/-- The magnitude of a float, in lower case. -/
def floatMagnitude? (cs : List Char) : Option Binary64 :=
  let word := String.ofList cs
  if word = ".inf" || word = "inf" || word = "infinity" then some (Binary64.infinity false)
  else if word = ".nan" || word = "nan" then some Binary64.nan
  else
    -- parts of base sixty are added up from the last one on
    match (cutAt ':' cs).mapM readDecimal? with
    | some [x] => some x
    | some parts =>
      let total := parts.reverse.foldl
        (fun (sum : Float × Float) x =>
          (sum.1 + Float.ofBits x.bits * sum.2, sum.2 * 60)) ((0 : Float), (1 : Float))
      some ⟨total.1.toBits⟩
    | none => none

/-- A float with the other sign. -/
def negate (x : Binary64) : Binary64 :=
  if x.isNaN then x else ⟨x.bits ^^^ 0x8000000000000000⟩

/-- The float that a scalar writes. -/
def readFloat (text : String) : Except Fault Binary64 :=
  let cs := (dropBars text).map Char.toLower
  if cs.isEmpty then .error .emptyNumber
  else
    match floatMagnitude? (dropSign cs) with
    | some x => .ok (if cs.head? = some '-' then negate x else x)
    | none => .error (.notANumber text)

/-- The truth value that a scalar writes, in any letter case. -/
def readBool (text : String) : Except Fault Bool :=
  let word := Text.lowerWord text
  if ["yes", "true", "on"].contains word then .ok true
  else if ["no", "false", "off"].contains word then .ok false
  else .error (.notABoolean text)

end MarkdownAdf.Yaml
