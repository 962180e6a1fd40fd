import MarkdownAdf.Yaml.Cursor
import MarkdownAdf.Yaml.Token.Basic

/-!
# Block scalars

A block scalar is a text on lines of its own that are indented. A literal one keeps its ends of
line, a folded one joins lines that start with no blank. Its head may say how far it is indented and
what becomes of the line ends behind it.
-/

namespace MarkdownAdf.Yaml

/-- What becomes of the ends of line behind the text. -/
inductive Chomping where
  | clip
  | strip
  | keep
  deriving DecidableEq, Repr

def chomping? : Option Char → Option Chomping
  | some '+' => some .keep
  | some '-' => some .strip
  | _ => none

/-- An indentation from one to nine; zero is no indentation. -/
def indentation? (c : Option Char) : Except Fault (Option Nat) :=
  match c with
  | some x =>
    if x = '0' then .error .malformed
    else if x.isDigit then .ok (some (x.toNat - 48))
    else .ok none
  | none => .ok none

/-- Reads what follows the bar or the angle: chomping and indentation in either order. -/
def readBlockHead (c : Cursor) : Except Fault (Chomping × Option Nat × Cursor) := do
  let (chomp, indent, c) ← match chomping? c.peek? with
    | some chomp => do
      let indent ← indentation? c.next.peek?
      pure (chomp, indent, if indent.isSome then c.next.next else c.next)
    | none => do
      let indent ← indentation? c.peek?
      match indent, chomping? c.next.peek? with
      | some _, some chomp => pure (chomp, indent, c.next.next)
      | some _, none => pure (.clip, indent, c.next)
      | none, _ => pure (.clip, none, c)
  if endsWord c.peek? then return (chomp, indent, c) else throw .malformed

/-- Drops spaces, a comment and the end of a line; nothing else may stand there. -/
def skipRestOfLine (c : Cursor) : Except Fault Cursor :=
  let c := c.skipSpaces
  let c := if c.peek? = some '#' then c.skipToBreak else c
  if endsLine c.peek? then .ok c.next else .error .malformed

/-- Reads the empty lines before the text; the second part of the answer is the widest of them. -/
def leadingBreaks : (fuel : Nat) → Cursor → List Char × Nat × Cursor
  | 0, c => ([], 0, c)
  | fuel + 1, c =>
    let c := c.skipSpaces
    match c.readBreak? with
    | some (b, after) =>
      let (more, width, last) := leadingBreaks fuel after
      (b :: more, max c.column width, last)
    | none => ([], c.column, c)

/-- Reads empty lines inside the text, as far as its indentation. -/
def blockBreaks (indent : Nat) : (fuel : Nat) → Cursor → List Char × Cursor
  | 0, c => ([], c)
  | fuel + 1, c =>
    let c := c.skipIndent indent
    match c.readBreak? with
    | some (b, after) =>
      let (more, last) := blockBreaks indent fuel after
      (b :: more, last)
    | none => ([], c)

def isSpaceOrTab (c : Option Char) : Bool := c = some ' ' || c = some '\t'

/-- Reads the lines of the text. `breaks` are the empty lines before the line at hand. Answers with
the text up to its last line, the end of that line, the empty lines behind it, and the cursor. -/
def readBlockLines (folded : Bool) (indent : Nat) (breaks : List Char) :
    (fuel : Nat) → Cursor → List Char × List Char × List Char × Cursor
  | 0, c => ([], [], breaks, c)
  | fuel + 1, c =>
    if c.column ≠ indent || c.peek?.isNone then ([], [], breaks, c)
    else
      let startsPlain := !isSpaceOrTab c.peek?
      let line := c.span fun x => !isBreak x
      let c := c.skip line.length
      let (lineEnd, after) := match c.readBreak? with
        | some (b, after) => ([b], after)
        | none => ([], c)
      let (more, after) := blockBreaks indent (after.rest.length + 1) after
      if after.column = indent && after.peek?.isSome then
        let joint :=
          if folded && lineEnd == ['\n'] && startsPlain && !isSpaceOrTab after.peek? then
            if more.isEmpty then [' '] else []
          else lineEnd
        let (text, last, left, stop) := readBlockLines folded indent more fuel after
        (breaks ++ line ++ joint ++ text, last, left, stop)
      else (breaks ++ line, lineEnd, more, after)

/-- Reads a block scalar behind its bar or angle; `outer` is the indentation around it. -/
def readBlock (folded : Bool) (outer : Int) (c : Cursor) : Except Fault (String × Cursor) := do
  let (chomp, increment, c) ← readBlockHead c
  let c ← skipRestOfLine c
  let least := (outer + 1).toNat.max 1
  let fuel := c.rest.length + 1
  let (indent, breaks, c) := match increment with
    | some n =>
      let indent := least + n - 1
      let (breaks, c) := blockBreaks indent fuel c
      (indent, breaks, c)
    | none =>
      let (breaks, width, c) := leadingBreaks fuel c
      (max least width, breaks, c)
  let (text, last, left, c) := readBlockLines folded indent breaks fuel c
  let tail := match chomp with
    | .strip => []
    | .clip => last
    | .keep => last ++ left
  return (String.ofList (text ++ tail), c)

end MarkdownAdf.Yaml
