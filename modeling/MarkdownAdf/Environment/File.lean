import MarkdownAdf.Environment.Basic
import MarkdownAdf.Text.Lines

/-!
# Environment files

A file of assignments, one to a line: `NAME=value`, where `export` may stand in front, the value may
be quoted, and a number sign starts a comment. A name without an equals sign is there without a
value. A line that is none of this is passed over. Values may refer to variables as `${NAME}` or
`${NAME:-default}`.
-/

namespace MarkdownAdf

namespace Environment

namespace File

/-- A step of reading: a result with the rest of the text, or the place where it failed. -/
abbrev Step (α : Type) := Except (List Char) (α × List Char)

/-- A blank inside a line. -/
def isGap (c : Char) : Bool := Text.isBlank c && c != '\n' && c != '\r'

def skipGap (cs : List Char) : List Char := cs.dropWhile isGap

/-- Drops the rest of a line with its end. -/
def skipLine (cs : List Char) : List Char := (cs.dropWhile (· ≠ '\n')).drop 1

/-- Drops the word `export` when a gap follows it. -/
def skipExport (cs : List Char) : List Char :=
  if "export".toList.isPrefixOf cs then
    match cs.drop 6 with
    | c :: rest => if isGap c then skipGap rest else cs
    | [] => cs
  else cs

/-- A character of a name without quotes. -/
def isNameChar (c : Char) : Bool := c != '=' && c != '#' && !Text.isBlank c

/-- Reads a name, none where a comment starts. -/
def readName (cs : List Char) : Step (Option String) :=
  match cs with
  | '#' :: _ => .ok (none, cs)
  | '\'' :: rest =>
    match rest.takeWhile (· ≠ '\''), rest.dropWhile (· ≠ '\'') with
    | name@(_ :: _), _ :: after => .ok (some (String.ofList name), after)
    | _, _ => .error cs
  | _ =>
    match cs.takeWhile isNameChar with
    | [] => .error cs
    | name => .ok (some (String.ofList name), cs.dropWhile isNameChar)

/-- The text up to the quote that closes it and the text behind. A quote behind a backslash closes
only when no other quote does, and then the last such quote; `escaped` is what that would give,
`seen` the text so far, backwards. -/
def closeQuote (quote : Char) (seen : List Char) (escaped : Option (List Char × List Char)) :
    List Char → Option (List Char × List Char)
  | [] => escaped
  | c :: rest =>
    if c = quote then
      if seen.head? = some '\\' then closeQuote quote (c :: seen) (some (seen.reverse, rest)) rest
      else some (seen.reverse, rest)
    else closeQuote quote (c :: seen) escaped rest

/-- The character that a backslash and a letter stand for between double quotes. -/
def doubleEscape? : Char → Option Char
  | '\\' => some '\\'
  | '\'' => some '\''
  | '"' => some '"'
  | 'a' => some '\x07'
  | 'b' => some '\x08'
  | 'f' => some '\x0c'
  | 'n' => some '\n'
  | 'r' => some '\r'
  | 't' => some '\t'
  | 'v' => some '\x0b'
  | _ => none

/-- The character that a backslash and a character stand for between single quotes. -/
def singleEscape? : Char → Option Char
  | '\\' => some '\\'
  | '\'' => some '\''
  | _ => none

/-- Replaces escapes; a backslash that starts none stays. -/
def unescape (escape? : Char → Option Char) : List Char → List Char
  | [] => []
  | [c] => [c]
  | c :: d :: rest =>
    if c = '\\' then
      match escape? d with
      | some e => e :: unescape escape? rest
      | none => c :: unescape escape? (d :: rest)
    else c :: unescape escape? (d :: rest)

/-- Cuts off a comment behind a blank. -/
def cutComment : List Char → List Char
  | [] => []
  | c :: rest =>
    if Text.isBlank c && (rest.dropWhile Text.isBlank).head? = some '#' then []
    else c :: cutComment rest

/-- Reads a value between quotes. -/
def readQuoted (quote : Char) (escape? : Char → Option Char) (cs : List Char) : Step String :=
  match closeQuote quote [] none (cs.drop 1) with
  | some (value, rest) => .ok (String.ofList (unescape escape? value), rest)
  | none => .error cs

/-- Reads the value behind an equals sign. -/
def readValue (cs : List Char) : Step String :=
  match cs with
  | '\'' :: _ => readQuoted '\'' singleEscape? cs
  | '"' :: _ => readQuoted '"' doubleEscape? cs
  | _ =>
    .ok (Text.trimEnd (String.ofList (cutComment (cs.takeWhile (· ≠ '\n')))),
      cs.dropWhile (· ≠ '\n'))

/-- Reads to the end of a line on which only a comment may stand. -/
def readLineEnd (cs : List Char) : Step Unit :=
  let text := match skipGap cs with
    | '#' :: rest => rest.dropWhile (· ≠ '\n')
    | _ => cs
  match skipGap text with
  | [] => .ok ((), [])
  | '\n' :: rest => .ok ((), rest)
  | _ => .error text

/-- Reads an assignment to the end of its line. -/
def readAssignment (cs : List Char) :
    Except (List Char) (Option (String × Option String) × List Char) := do
  let (name, rest) ← readName (skipExport cs)
  let (value, rest) ← match skipGap rest with
    | '=' :: after => (readValue (skipGap after)).map fun v => (some v.1, v.2)
    | rest => .ok (none, rest)
  let (_, rest) ← readLineEnd rest
  return (name.map (·, value), rest)

/-- The assignments of a text, in order. -/
def assignmentsFrom : (fuel : Nat) → List Char → List (String × Option String)
  | 0, _ => []
  | fuel + 1, cs =>
    match cs.dropWhile Text.isBlank with
    | [] => []
    | cs =>
      match readAssignment cs with
      | .ok (some assignment, rest) => assignment :: assignmentsFrom fuel rest
      | .ok (none, rest) => assignmentsFrom fuel rest
      | .error place => assignmentsFrom fuel (skipLine place)

/-- The assignments of a file; each takes at least one character. -/
def assignments (text : String) : List (String × Option String) :=
  let cs := Text.unifyLineEnds text.toList
  assignmentsFrom (cs.length + 1) cs

/-- A part of a value. -/
inductive Atom where
  | literal (c : Char)
  | variable (name : String) (default : Option String)
  deriving DecidableEq, Repr

/-- Reads a reference to a variable behind its opening brace. -/
def readReference? (cs : List Char) : Option (Atom × List Char) :=
  let name := String.ofList (cs.takeWhile fun c => c ≠ '\x7d' && c ≠ ':')
  match cs.dropWhile fun c => c ≠ '\x7d' && c ≠ ':' with
  | '\x7d' :: rest => some (.variable name none, rest)
  | ':' :: '-' :: rest =>
    match rest.dropWhile (· ≠ '\x7d') with
    | _ :: after =>
      some (.variable name (some (String.ofList (rest.takeWhile (· ≠ '\x7d')))), after)
    | [] => none
  | _ => none

/-- The parts of a value. -/
def atomsFrom : (fuel : Nat) → List Char → List Atom
  | 0, _ => []
  | _, [] => []
  | fuel + 1, c :: cs =>
    match c, cs with
    | '$', '\x7b' :: rest =>
      match readReference? rest with
      | some (atom, after) => atom :: atomsFrom fuel after
      | none => .literal c :: atomsFrom fuel cs
    | _, _ => .literal c :: atomsFrom fuel cs

/-- The text of a part: variables of the environment come before those of the file, and a variable
without a value is empty. -/
def Atom.text (env : Environment) (seen : List (String × Option String)) : Atom → String
  | .literal c => String.singleton c
  | .variable name default =>
    match env.lookup name with
    | some s => s
    | none =>
      match seen.lookup name with
      | some s => s.getD ""
      | none => default.getD ""

/-- A value with its references replaced. -/
def expand (env : Environment) (seen : List (String × Option String)) (value : String) : String :=
  let cs := value.toList
  String.join ((atomsFrom (cs.length + 1) cs).map (Atom.text env seen))

/-- The variables behind assignments; an assignment replaces an earlier one of its name. -/
def bindingsFrom (env : Environment) (seen : List (String × Option String)) :
    List (String × Option String) → List (String × Option String)
  | [] => seen
  | (name, value) :: rest =>
    let others := seen.filter fun v => v.1 != name
    bindingsFrom env ((name, value.map (expand env seen)) :: others) rest

/-- The variables that a file sets, each with its last value. -/
def bindings (env : Environment) (text : String) : List (String × Option String) :=
  bindingsFrom env [] (assignments text)

end File

/-- The options of an environment and of a file that may exist beside it. -/
def optionsWithFile (env : Environment) (file : Option String) : Except ConfigError Options :=
  match file with
  | some text => (env.adopt (File.bindings env text)).options
  | none => env.options

end Environment

end MarkdownAdf
