import MarkdownAdf.Markdown.BareLink
import MarkdownAdf.Markdown.Delimiter
import MarkdownAdf.Markdown.Leaf
import MarkdownAdf.Markdown.Target

/-!
# Atoms

The parts of inline content that hold no other parts: text, line breaks, escapes, code and
addresses. Each starts with a character of its own; all other characters are text.
-/

namespace MarkdownAdf.Markdown

/-- Inline content and the definitions that its links may refer to. -/
structure Source where
  chars : Array Char
  definitions : Definitions

namespace Source

/-- The characters from one place to another. -/
def slice (s : Source) (start stop : Nat) : List Char := (s.chars.extract start stop).toList

/-- The place behind the characters of a class that stand at a place. -/
def runStop (s : Source) (p : Char → Bool) (stop i : Nat) : Nat :=
  if i < stop then if s.chars[i]?.any p then runStop s p stop (i + 1) else i else i
termination_by stop - i

end Source

/-- The characters at which text stops, because they may start something else. -/
def isSpecial (c : Char) : Bool := "\n!#$%&*+-:<=>@[\\]^_`\x7b\x7d~".toList.contains c

/-- A part of inline content that holds no other. A link that was found at its colon takes back some
characters of the text before it. -/
inductive Atom where
  | text (content : List Char)
  | lineBreak
  | hardBreak
  | escaped (content : List Char)
  | code (content : List Char)
  | link (taken : Nat) (href text : List Char)
  deriving DecidableEq, Repr

namespace Atom

/-- The content of code between its marks. Ends of line count as spaces, and one space at each end
is dropped when something else stands between them. -/
def codeContent (cs : List Char) : List Char :=
  let cs := cs.map fun c => if c = '\n' then ' ' else c
  if cs.head? = some ' ' && cs.getLast? = some ' ' && !cs.all Text.isBlank then
    (cs.drop 1).dropLast
  else cs

/-- Where the run of backticks of a length starts that closes code, looking from place `i` on. The
search goes on to the end of the whole content. -/
def codeStop? (s : Source) (length stop i : Nat) : Option Nat :=
  if i < s.chars.size then
    if s.chars[i]? = some '`' then
      let next := max (i + 1) (s.runStop (· = '`') stop (i + 1))
      if next - i = length then some i else codeStop? s length stop next
    else codeStop? s length stop (i + 1)
  else none
termination_by s.chars.size - i
decreasing_by all_goals omega

/-- Code, or the backticks as text when nothing closes it. -/
def readCode (s : Source) (stop i : Nat) : Atom × Nat :=
  let start := s.runStop (· = '`') stop i
  let length := start - i
  match codeStop? s length stop start with
  | some j => (.code (codeContent (s.slice start j)), j + length)
  | none => (.text (s.slice i start), start)

/-- A backslash with what follows: an end of line is a hard break, and punctuation loses its
meaning. -/
def escape? (s : Source) (stop i : Nat) : Option (Atom × Nat) :=
  if i + 1 < stop then
    match s.chars[i + 1]? with
    | some '\n' => some (.hardBreak, s.runStop isGap stop (i + 2))
    | some c => some (.escaped (if isEscapable c then [c] else ['\\', c]), i + 2)
    | none => none
  else none

/-- A reference to a character. -/
def reference? (s : Source) (stop i : Nat) : Option (Atom × Nat) :=
  if i + 1 < stop then
    let cs := s.slice (i + 1) (i + 40)
    (readReference? cs).map fun (value, rest) => (.escaped value, i + 1 + (cs.length - rest.length))
  else none

/-! ### Addresses in angle brackets -/

/-- Drops one end of line from the end. -/
def dropLineEnd (cs : List Char) : List Char :=
  if cs.getLast? = some '\n' then cs.dropLast else cs

/-- Whether a text is an address with a scheme. -/
def isSchemeAddress (cs : List Char) : Bool :=
  let name := cs.takeWhile fun c => c.isAlphanum || c = '+' || c = '.' || c = '-'
  match name, cs.drop name.length with
  | c :: _, ':' :: rest =>
    c.isAlpha && 2 ≤ name.length && name.length ≤ 32 &&
      (dropLineEnd rest).all fun d => 0x20 < d.toNat && d ≠ '<' && d ≠ '>'
  | _, _ => false

/-- Whether a text is a label of the host of a mail address in angle brackets. -/
def isMailLabel (cs : List Char) : Bool :=
  cs.length ≤ 63 && cs.all (fun c => c.isAlphanum || c = '-') && cs.head?.any Char.isAlphanum &&
    cs.getLast?.any Char.isAlphanum

/-- Whether a text is a mail address. -/
def isMailAddress (cs : List Char) : Bool :=
  let cs := dropLineEnd cs
  let name := cs.takeWhile (· ≠ '@')
  match cs.drop name.length with
  | _ :: host =>
    !name.isEmpty &&
      name.all (fun c => c.isAlphanum || ".!#$%&'*+/=?^_`\x7b|\x7d~-".toList.contains c) &&
      (host.splitOn '.').all isMailLabel
  | [] => false

/-- The address as a link, when links may lead there. -/
def linkTo? (taken : Nat) (address text : List Char) : Option Atom :=
  let href := Url.link address
  if Url.isAllowed href then some (.link taken href (Url.readable text)) else none

/-- An address in angle brackets. -/
def angled? (s : Source) (stop i : Nat) : Option (Atom × Nat) :=
  let cs := s.slice (i + 1) stop
  let body := cs.takeWhile fun c => c ≠ '<' && c ≠ '>'
  if (cs.drop body.length).head? = some '>' then
    let address :=
      if isSchemeAddress body then some body
      else if isMailAddress body then some ("mailto:".toList ++ body)
      else none
    (address.bind fun a => linkTo? 0 a body).map (·, i + body.length + 2)
  else none

/-! ### Bare addresses -/

/-- The name of a scheme at the end of a text that is written backwards. -/
def schemeName (pending : List Char) : List Char :=
  let name := (pending.takeWhile fun c => c.isAlphanum || c = '.' || c = '+' || c = '-').reverse
  if name.head?.any Char.isAlpha then name else []

/-- An address with a scheme and two slashes, found at its colon. Asterisks at its end may be marks
of emphasis and do not belong to it. -/
def bare? (s : Source) (pending : List Char) (stop i : Nat) : Option (Atom × Nat) :=
  let name := schemeName pending
  if i + 3 ≤ stop && s.slice (i + 1) (i + 3) = ['/', '/'] && !name.isEmpty then
    let cs := s.slice (i - name.length) s.chars.size
    match BareLink.schemeAt? true cs with
    | none => none
    | some (before, scheme) =>
      let start := (before.map fun _ => 1).getD 0
      match BareLink.skipRest? scheme before (cs.drop (start + scheme.length)) with
      | none => none
      | some behind =>
        let raw := (cs.take (cs.length - behind.length)).drop start
        let url := BareLink.address ⟨0, 0, scheme⟩ raw
        if url.length ≤ name.length then none
        else
          let url := dropBack (· = '*') url
          (linkTo? name.length url url).map (·, i + url.length - name.length)
  else none

/-- Reads the atom at a place; `pending` is the text before it, written backwards. Within links
no bare addresses are found. -/
def read? (s : Source) (linked : Bool) (pending : List Char) (stop i : Nat) :
    Option (Atom × Nat) :=
  match s.chars[i]? with
  | some ':' => if linked then none else bare? s pending stop i
  | some '\n' => some (.lineBreak, s.runStop isGap stop (i + 1))
  | some '\\' => escape? s stop i
  | some '`' => some (readCode s stop i)
  | some '<' => angled? s stop i
  | some '&' => reference? s stop i
  | some c =>
    if isSpecial c then none
    else
      let next := s.runStop (fun d => !isSpecial d) stop i
      some (.text (s.slice i next), next)
  | none => none

end Atom

end MarkdownAdf.Markdown
