import MarkdownAdf.Yaml.Scalar.Block
import MarkdownAdf.Yaml.Scalar.Quoted

/-!
# Names, tags and directives
-/

namespace MarkdownAdf.Yaml

/-- What may follow the name of an anchor or alias. -/
def endsAnchor (c : Option Char) : Bool :=
  isGap c || c.any fun x => "?:,]\x7d%@`".toList.contains x

/-- Reads the name behind the mark of an anchor or alias. -/
def readAnchor (c : Cursor) : Except Fault (String × Cursor) :=
  let name := c.next.span isNameChar
  let after := c.next.skip name.length
  if name.isEmpty || !endsAnchor after.peek? then .error .malformed
  else .ok (String.ofList name, after)

/-- Reads a handle: `!`, or a name between two of them. -/
def readHandle (c : Cursor) : Except Fault (String × Cursor) :=
  if c.peek? ≠ some '!' then .error .malformed
  else if c.peekAt? 1 = some ' ' then .ok ("!", c.next)
  else
    let name := c.next.span isNameChar
    let after := c.next.skip name.length
    if after.peek? = some '!' then .ok (String.ofList ('!' :: name ++ ['!']), after.next)
    else .error .malformed

/-- The characters of an address. -/
def isAddressChar (c : Char) : Bool :=
  c.isAlphanum || "-;/?:@&=+$,_.!~*'()[]".toList.contains c

/-- Reads bytes that are written as a percent sign and two digits each. -/
def readBytes : (fuel : Nat) → Cursor → Except Fault (List UInt8 × Cursor)
  | 0, c => .ok ([], c)
  | fuel + 1, c =>
    if c.peek? = some '%' then
      match c.peekAt? 1, c.peekAt? 2 with
      | some a, some b =>
        match hexNumber? [a, b] with
        | some n => (readBytes fuel (c.skip 3)).map fun r => (UInt8.ofNat n :: r.1, r.2)
        | none => .error .malformed
      | _, _ => .error .malformed
    else .ok ([], c)

/-- Reads an address as far as it goes. -/
def readAddressFrom : (fuel : Nat) → Cursor → Except Fault (List Char × Cursor)
  | 0, c => .ok ([], c)
  | fuel + 1, c =>
    match c.peek? with
    | some '%' => do
      let (bytes, after) ← readBytes (c.rest.length + 1) c
      match String.fromUTF8? ⟨bytes.toArray⟩ with
      | some s =>
        let (more, last) ← readAddressFrom fuel after
        return (s.toList ++ more, last)
      | none => throw .malformed
    | some x =>
      if isAddressChar x then (readAddressFrom fuel c.next).map fun r => (x :: r.1, r.2)
      else .ok ([], c)
    | none => .ok ([], c)

/-- Reads an address, which is not empty. -/
def readAddress (c : Cursor) : Except Fault (String × Cursor) := do
  let (text, after) ← readAddressFrom (c.rest.length + 1) c
  if text.isEmpty then throw .malformed
  return (String.ofList text, after)

/-- Reads a tag: a whole address between angles, a lone mark, or a suffix with a handle. -/
def readTag (c : Cursor) : Except Fault (Token × Cursor) := do
  let (token, after) ←
    if c.peekAt? 1 = some '<' then do
      let (suffix, after) ← readAddress (c.skip 2)
      if after.peek? = some '>' then pure (Token.tag none suffix, after.next) else throw .malformed
    else if isGap (c.peekAt? 1) then pure (Token.tag none "!", c.next)
    else do
      let word := c.next.span fun x => !endsWord (some x)
      let (handle, after) ← if word.contains '!' then readHandle c else pure ("!", c.next)
      let (suffix, after) ← readAddress after
      pure (Token.tag (some handle) suffix, after)
  if endsWord after.peek? then return (token, after) else throw .malformed

/-- Reads a number of a directive. -/
def readNumber (c : Cursor) : Except Fault (Nat × Cursor) :=
  let digits := c.span Char.isDigit
  if digits.isEmpty then .error .malformed
  else .ok (digits.foldl (fun n d => 10 * n + (d.toNat - 48)) 0, c.skip digits.length)

/-- Reads a directive from its percent sign to the end of its line. -/
def readDirective (c : Cursor) : Except Fault (Token × Cursor) := do
  let name := c.next.span isNameChar
  let after := c.next.skip name.length
  if name.isEmpty || !endsWord after.peek? then throw .malformed
  let (token, after) ←
    if name == "YAML".toList then do
      let (major, dot) ← readNumber after.skipSpaces
      if dot.peek? ≠ some '.' then throw .malformed
      let (minor, after) ← readNumber dot.next
      if endsWord after.peek? then pure (Token.versionDirective major minor, after)
      else throw .malformed
    else if name == "TAG".toList then do
      let (handle, gap) ← readHandle after.skipSpaces
      if gap.peek? ≠ some ' ' then throw .malformed
      let (value, after) ← readAddress gap.skipSpaces
      if endsWord after.peek? then pure (Token.tagDirective handle value, after)
      else throw .malformed
    else pure (Token.otherDirective, after.skipToBreak)
  let last ← skipRestOfLine after
  return (token, last)

end MarkdownAdf.Yaml
