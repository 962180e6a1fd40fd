import MarkdownAdf.Markdown.Escape
import MarkdownAdf.Markdown.Line
import MarkdownAdf.Markdown.Url
import MarkdownAdf.Text.Case

/-!
# Link targets

Where a link leads, with its title, as links write it behind their text and as definitions keep it
under a label.
-/

namespace MarkdownAdf.Markdown

structure Target where
  href : List Char
  title : List Char := []
  deriving DecidableEq, Repr

/-- The definitions of a text under their labels, the first of each label before the others. -/
abbrev Definitions := List (List Char × Target)

/-- The form under which labels are compared: words apart by one space, without regard to case. -/
def foldLabel (label : List Char) : List Char :=
  Text.fold (List.intercalate [' '] (Text.wordsOf [] label))

/-- Blanks and ends of line, as they may stand between the parts of a link. -/
def isSpacing (c : Char) : Bool := isGap c || c = '\n'

namespace Target

/-- The text up to a closing bracket `>`, within one line. -/
def readAngled : List Char → Option (List Char × List Char)
  | [] => none
  | '>' :: rest => some ([], rest)
  | '\\' :: c :: rest => (readAngled rest).map fun (s, rest) => ('\\' :: c :: s, rest)
  | c :: rest =>
    if c = '\n' || c = '<' then none
    else (readAngled rest).map fun (s, rest) => (c :: s, rest)

/-- The text up to a blank or a control, or to a closing parenthesis that nothing opened. `depth`
parentheses are open, at most 32, and all have to be closed. -/
def readPlain (depth : Nat) : List Char → Option (List Char × List Char)
  | [] => if depth = 0 then some ([], []) else none
  | '\\' :: c :: rest =>
    if c = ' ' then if depth = 0 then some ([], '\\' :: c :: rest) else none
    else (readPlain depth rest).map fun (s, rest) => ('\\' :: c :: s, rest)
  | c :: rest =>
    if c.toNat ≤ 0x20 || c.toNat = 0x7F then if depth = 0 then some ([], c :: rest) else none
    else if c = '(' && 32 ≤ depth then none
    else if c = ')' && depth = 0 then some ([], c :: rest)
    else
      let depth := if c = '(' then depth + 1 else if c = ')' then depth - 1 else depth
      (readPlain depth rest).map fun (s, rest) => (c :: s, rest)

/-- Reads an address at the front of a text, in angle brackets or on its own. -/
def readAddress : List Char → Option (List Char × List Char)
  | '<' :: rest => (readAngled rest).map fun (s, rest) => (unescape s, rest)
  | cs =>
    match readPlain 0 cs with
    | some (c :: s, rest) => some (unescape (c :: s), rest)
    | _ => none

/-- The text up to the closing mark of a title. Within parentheses no other may open. -/
def readQuoted (close : Char) : List Char → Option (List Char × List Char)
  | [] => none
  | '\\' :: c :: rest => (readQuoted close rest).map fun (s, rest) => ('\\' :: c :: s, rest)
  | c :: rest =>
    if c = close then some ([], rest)
    else if c = '(' && close = ')' then none
    else (readQuoted close rest).map fun (s, rest) => (c :: s, rest)

/-- Reads a title at the front of a text, between quotes or in parentheses. -/
def readTitle : List Char → Option (List Char × List Char)
  | c :: rest =>
    if c = '"' || c = '\'' || c = '(' then
      (readQuoted (if c = '(' then ')' else c) rest).map fun (s, rest) => (unescape s, rest)
    else none
  | [] => none

end Target

/-! ### Definitions -/

/-- The label of a definition, up to its closing bracket. No bracket may open in it. -/
def readLabel : List Char → Option (List Char × List Char)
  | [] => none
  | ']' :: rest => some ([], rest)
  | '\\' :: c :: rest => (readLabel rest).map fun (s, rest) => ('\\' :: c :: s, rest)
  | c :: rest =>
    if c = '[' then none else (readLabel rest).map fun (s, rest) => (c :: s, rest)

/-- Whether nothing but blanks is left on a line. -/
def endsDefinition (cs : List Char) : Bool := (cs.dropWhile isGap).head?.all (· = '\n')

/-- The title behind the address of a definition, and what follows it. A title that something
follows on its line is none. -/
def readDefinitionTitle (cs : List Char) : Option (List Char × List Char) :=
  let inner := cs.dropWhile isSpacing
  match if inner.length < cs.length then Target.readTitle inner else none with
  | some (title, rest) =>
    if endsDefinition rest then some (title, rest)
    else if title.isEmpty then none
    else if endsDefinition cs then some ([], cs)
    else none
  | none => if endsDefinition cs then some ([], cs) else none

/-- Reads a definition at the front of a paragraph: its label, its target and the number of lines
that it takes. -/
def readDefinition (text : List Char) : Option (List Char × Target × Nat) :=
  match text with
  | '[' :: rest =>
    match readLabel rest with
    | some (label, ':' :: rest) =>
      let rest := rest.dropWhile isSpacing
      let line := rest.takeWhile (· ≠ '\n')
      let line := rest.take (line.length + 1)
      match Target.readAddress line with
      | some (address, behind) =>
        let href := Url.link address
        let behind := behind ++ rest.drop line.length
        match if Url.isAllowed href then readDefinitionTitle behind else none with
        | some (title, behind) =>
          let label := foldLabel label
          let taken := text.take (text.length - behind.length)
          if label.isEmpty then none else some (label, ⟨href, title⟩, taken.count '\n' + 1)
        | none => none
      | none => none
    | _ => none
  | _ => none

end MarkdownAdf.Markdown
