import MarkdownAdf.Yaml.Cursor

/-!
# Plain scalars

A plain scalar has no quotes. It goes on over lines that are indented, and its line ends are folded.
-/

namespace MarkdownAdf.Yaml

/-- The characters of one stretch of a plain scalar; `flow` says that it stands between brackets. -/
def plainRun (flow : Bool) : List Char → List Char
  | [] => []
  | c :: rest =>
    let next := rest.head?
    if isGap (some c) then []
    else if c = ':' && (isGap next || (flow && next.any isFlowMark)) then []
    else if flow && (c = '?' || isFlowMark c) then []
    else c :: plainRun flow rest

/-- Folds an end of line and the empty lines behind it: a line feed alone becomes a space. -/
def foldBreaks (first : Char) (more : List Char) : List Char :=
  if first ≠ '\n' then first :: more
  else if more.isEmpty then [' ']
  else more

/-- Reads the ends of line between two stretches, with the spaces around them; none when a document
mark follows. -/
def plainBreaks : (fuel : Nat) → Cursor → Option (List Char × Cursor)
  | 0, c => some ([], c)
  | fuel + 1, c =>
    if c.atDocumentMark then none
    else
      let c := c.skipSpaces
      match c.readBreak? with
      | some (b, after) => (plainBreaks fuel after).map fun r => (b :: r.1, r.2)
      | none => some ([], c)

/-- What stands between two stretches: the text that it folds to, and whether it holds an end of
line. Nothing is left of it before a document mark. -/
def plainGap (c : Cursor) : List Char × Bool × Cursor :=
  let spaces := c.span (· = ' ')
  let c := c.skipSpaces
  match c.readBreak? with
  | none => (spaces, false, c)
  | some (b, after) =>
    match plainBreaks (after.rest.length + 1) after with
    | some (more, after) => (foldBreaks b more, true, after)
    | none => ([], true, after)

/-- Reads a plain scalar whose lines are indented at least as far as `indent`. Answers with the
text, whether it crossed an end of line, and the cursor behind. -/
def readPlainFrom (flow : Bool) (indent : Int) (gap : List Char) (crossed : Bool) :
    (fuel : Nat) → Cursor → List Char × Bool × Cursor
  | 0, c => ([], crossed, c)
  | fuel + 1, c =>
    if c.peek? = some '#' then ([], crossed, c)
    else
      let run := plainRun flow c.rest
      if run.isEmpty then ([], crossed, c)
      else
        let (nextGap, broke, after) := plainGap (c.skip run.length)
        let outside := !flow && (after.column : Int) < indent
        if nextGap.isEmpty || after.peek? = some '#' || outside then
          (gap ++ run, broke, after)
        else
          let (text, crossed, last) := readPlainFrom flow indent nextGap broke fuel after
          (gap ++ run ++ text, crossed, last)

def readPlain (flow : Bool) (indent : Int) (c : Cursor) : String × Bool × Cursor :=
  let (text, crossed, after) := readPlainFrom flow indent [] false (c.rest.length + 1) c
  (String.ofList text, crossed, after)

end MarkdownAdf.Yaml
