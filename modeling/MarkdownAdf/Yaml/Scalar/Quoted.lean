import MarkdownAdf.Yaml.Cursor
import MarkdownAdf.Yaml.Scalar.Plain
import MarkdownAdf.Yaml.Token.Basic

/-!
# Quoted scalars

Between single quotes only the quote itself is special, and is written twice. Between double quotes
a backslash starts an escape. Line ends are folded as in plain scalars.
-/

namespace MarkdownAdf.Yaml

/-- What a backslash and a character stand for. -/
def escape? : Char → Option Char
  | '0' => some '\x00'
  | 'a' => some '\x07'
  | 'b' => some '\x08'
  | 't' | '\t' => some '\t'
  | 'n' => some '\n'
  | 'v' => some '\x0b'
  | 'f' => some '\x0c'
  | 'r' => some '\r'
  | 'e' => some '\x1b'
  | ' ' => some ' '
  | '"' => some '"'
  | '\\' => some '\\'
  | '/' => some '/'
  | 'N' => some '\u0085'
  | '_' => some '\u00a0'
  | 'L' => some '\u2028'
  | 'P' => some '\u2029'
  | _ => none

/-- The number of hexadecimal digits behind a letter that starts a code point. -/
def escapeWidth? : Char → Option Nat
  | 'x' => some 2
  | 'u' => some 4
  | 'U' => some 8
  | _ => none

/-- The value of a hexadecimal digit. -/
def hexValue? (c : Char) : Option Nat :=
  if '0' ≤ c && c ≤ '9' then some (c.toNat - 48)
  else if 'a' ≤ c && c ≤ 'f' then some (c.toNat - 87)
  else if 'A' ≤ c && c ≤ 'F' then some (c.toNat - 55)
  else none

/-- The number that hexadecimal digits write. -/
def hexNumber? (cs : List Char) : Option Nat :=
  cs.foldlM (fun n c => (hexValue? c).map (16 * n + ·)) 0

/-- Reads a code point of a given number of digits. -/
def readCodePoint (width : Nat) (c : Cursor) : Except Fault (Char × Cursor) :=
  let digits := c.rest.take width
  if digits.length < width then .error .malformed
  else
    match hexNumber? digits with
    | none => .error .malformed
    | some n =>
      if n < 0x110000 then .ok (Char.ofNat n, c.skip width) else .error (.escapeOutOfRange n)

/-- Reads empty lines; a document mark may not stand in a quoted scalar. -/
def quotedBreaks : (fuel : Nat) → Cursor → Except Fault (List Char × Cursor)
  | 0, c => .ok ([], c)
  | fuel + 1, c =>
    if c.atDocumentMark then .error .malformed
    else
      let c := c.skipWhile fun x => x = ' ' || x = '\t'
      match c.readBreak? with
      | some (b, after) => (quotedBreaks fuel after).map fun r => (b :: r.1, r.2)
      | none => .ok ([], c)

/-- Reads a scalar to the quote that closes it; `double` tells the two sorts apart. -/
def readQuotedFrom (double : Bool) : (fuel : Nat) → Cursor → Except Fault (List Char × Cursor)
  | 0, _ => .error .malformed
  | fuel + 1, c =>
    let quote := if double then '"' else '\''
    let andThen (text : List Char) (after : Cursor) : Except Fault (List Char × Cursor) :=
      (readQuotedFrom double fuel after).map fun r => (text ++ r.1, r.2)
    match c.peek? with
    | none => .error .malformed
    | some x =>
      if x = quote then
        if !double && c.peekAt? 1 = some quote then andThen [quote] (c.skip 2)
        else .ok ([], c.next)
      else if double && x = '\\' then
        let c := c.next
        match c.peek? with
        | none => .error .malformed
        | some e =>
          match escape? e, escapeWidth? e with
          | some y, _ => andThen [y] c.next
          | none, some width => do
            let (y, after) ← readCodePoint width c.next
            andThen [y] after
          | none, none =>
            if isBreak e then do
              let (more, after) ← quotedBreaks (c.rest.length + 1) c.next
              andThen more after
            else .error .malformed
      else if x = ' ' || x = '\t' || isBreak x then
        let spaces := c.span fun x => x = ' ' || x = '\t'
        let c := c.skip spaces.length
        match c.peek?, c.readBreak? with
        | none, _ => .error .malformed
        | some _, none => andThen spaces c
        | some _, some (b, after) => do
          let (more, after) ← quotedBreaks (c.rest.length + 1) after
          andThen (foldBreaks b more) after
      else andThen [x] c.next

/-- Reads a quoted scalar from its opening quote on. -/
def readQuoted (double : Bool) (c : Cursor) : Except Fault (String × Cursor) :=
  (readQuotedFrom double (c.rest.length + 1) c.next).map fun r => (String.ofList r.1, r.2)

end MarkdownAdf.Yaml
