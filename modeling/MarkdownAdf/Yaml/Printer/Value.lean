import MarkdownAdf.Value.Printer
import MarkdownAdf.Yaml.Printer.Text

/-!
# Writing values

Collections are written on lines of their own; empty ones between brackets. A sequence that is the
value of a key is not indented further than the key.
-/

namespace MarkdownAdf.Yaml

/-- A float, with a point before its exponent. -/
def floatText (x : Binary64) : String :=
  if x.isNaN then ".nan"
  else if x.isInfinite then if x.isNegative then "-.inf" else ".inf"
  else
    let cs := x.text.toList
    if cs.contains '.' then x.text
    else String.ofList (cs.takeWhile (· ≠ 'e') ++ ".0".toList ++ cs.dropWhile (· ≠ 'e'))

/-- The text of a scalar, and whether its form implies its type; none for collections. -/
def scalarText? : Value → Option (String × Bool)
  | .null => some ("null", true)
  | .bool b => some (if b then "true" else "false", true)
  | .int n => some (toString n, true)
  | .float x => some (floatText x, true)
  | .str s => some (s, impliedTag s == .str)
  | .preset p => some (p.name, true)
  | .foreign _ text _ _ => some (text, true)
  | .list _ | .map _ => none

/-- The room that the tag of a scalar takes where a key has to be short. -/
def tagLength : Value → Nat
  | .null | .bool _ => 6
  | .float _ => 7
  | _ => 5

/-- Whether a value may stand before a colon on one line. -/
def isSimpleKey (v : Value) : Bool :=
  match v, scalarText? v with
  | .list items, _ => items.isEmpty
  | .map entries, _ => entries.isEmpty
  | _, some (text, _) =>
    tagLength v + text.length < 128 && text != "" && !(analyze text.toList).multiline
  | _, none => false

/-- The place of a value. -/
inductive Place where
  | root
  | item
  | key (simple : Bool)
  | value
  deriving DecidableEq, Repr

def Place.isSimpleKey : Place → Bool
  | .key simple => simple
  | _ => false

def Place.inMapping : Place → Bool
  | .key _ | .value => true
  | .root | .item => false

/-- The column of a collection inside one at column `indent`, none at the root. -/
def innerColumn (indent : Option Nat) : Nat :=
  match indent with
  | none => 0
  | some n => n + 2

mutual

/-- Writes a value inside a collection at column `indent`. -/
def Pen.value (p : Pen) (indent : Option Nat) (place : Place) : Value → Pen
  | .list [] => (p.mark ['['] true).mark [']'] false
  | .map [] => (p.mark ['\x7b'] true).mark ['\x7d'] false
  | .list (v :: rest) =>
    let column := if place.inMapping && !p.indenting then indent.getD 0 else innerColumn indent
    p.items column (v :: rest)
  | .map (e :: rest) => p.entries (innerColumn indent) (e :: rest)
  | v =>
    match scalarText? v with
    | some (text, own) => p.scalar ((indent.getD 0) + 2) own place.isSimpleKey text.toList
    | none => p

def Pen.items (p : Pen) (column : Nat) : List Value → Pen
  | [] => p
  | v :: rest =>
    let p := (p.indentTo column).mark ['-'] true true
    (p.value (some column) .item v).items column rest

def Pen.entries (p : Pen) (column : Nat) : List (Value × Value) → Pen
  | [] => p
  | (k, v) :: rest =>
    let p := p.indentTo column
    let p := if isSimpleKey k then (p.value (some column) (.key true) k).mark [':'] false
      else
        let p := (p.mark ['?'] true true).value (some column) (.key false) k
        (p.indentTo column).mark [':'] true true
    (p.value (some column) .value v).entries column rest

end

/-- The text of a value as a document. -/
def write (v : Value) : String :=
  String.ofList (({ } : Pen).value none .root v |>.indentTo 0).written.reverse

end MarkdownAdf.Yaml
