import MarkdownAdf.Yaml.Token.Name

/-!
# Reading tokens

A key without a mark of its own is recognised only by the colon behind it. The reader therefore
remembers where a key could have started, one place for each level of brackets, and puts the key
token in there when the colon comes. Indentation opens and closes the collections outside brackets.
-/

namespace MarkdownAdf.Yaml

namespace Reader

/-- A place where a key may have started. A required one has to turn out to be a key. -/
structure KeyPlace where
  tokens : Nat
  required : Bool
  index : Nat
  line : Nat
  column : Nat
  deriving DecidableEq, Repr

structure State where
  cursor : Cursor
  tokens : Array Token := #[]
  /-- the column of the innermost collection outside brackets -/
  indent : Int := -1
  indents : List Int := []
  /-- whether a key may start here -/
  keyAllowed : Bool := true
  /-- the place of a key at this level of brackets -/
  key : Option KeyPlace := none
  /-- the places of keys at the levels around it -/
  outerKeys : List (Option KeyPlace) := []

/-- A step of the reader. -/
abbrev Step := StateT State (Except Fault)

def fail {α : Type} : Step α := throw .malformed

def inFlow (s : State) : Bool := !s.outerKeys.isEmpty

def push (t : Token) : Step Unit := modify fun s => { s with tokens := s.tokens.push t }

def moveTo (c : Cursor) : Step Unit := modify fun s => { s with cursor := c }

/-- Puts a token before the token of a given number. -/
def insertAt (n : Nat) (t : Token) : Step Unit :=
  modify fun s =>
    { s with tokens := s.tokens.extract 0 n ++ #[t] ++ s.tokens.extract n s.tokens.size }

/-- Forgets a place that is on another line or too far behind; a required one is an error then. -/
def refresh (c : Cursor) : Option KeyPlace → Except Fault (Option KeyPlace)
  | none => .ok none
  | some k =>
    if k.line ≠ c.line || 1024 < c.index - k.index then
      if k.required then .error .malformed else .ok none
    else .ok (some k)

def refreshKeys : Step Unit := do
  let s ← get
  let key ← refresh s.cursor s.key
  let outerKeys ← (s.outerKeys.mapM (refresh s.cursor) : Except Fault _)
  set { s with key, outerKeys }

/-- Gives up the place of a key at this level. -/
def dropKey : Step Unit := do
  let s ← get
  if s.key.any (·.required) then fail
  set { s with key := none }

/-- Remembers that a key may start here. -/
def saveKey : Step Unit := do
  let s ← get
  if s.keyAllowed then
    dropKey
    let c := s.cursor
    let required := !inFlow s && s.indent = c.column
    modify fun s => { s with key := some ⟨s.tokens.size, required, c.index, c.line, c.column⟩ }

def allowKey (b : Bool) : Step Unit := modify fun s => { s with keyAllowed := b }

/-- Closes the collections that start right of a column. -/
def closeTo (column : Int) : Step Unit := do
  let s ← get
  if !inFlow s then
    let closed := (s.indent :: s.indents).takeWhile (column < ·)
    let left := (s.indent :: s.indents).dropWhile (column < ·)
    set { s with tokens := s.tokens ++ Array.replicate closed.length Token.blockEnd,
                 indent := left.head?.getD (-1), indents := left.tail }

/-- Makes a column the innermost one; answers whether it lies right of the one before. -/
def openAt (column : Int) : Step Bool := do
  let s ← get
  if s.indent < column then
    set { s with indent := column, indents := s.indent :: s.indents }
    return true
  else return false

/-- Skips spaces, comments and empty lines. Outside brackets a key may start on a new line. -/
def skipToToken : (fuel : Nat) → Step Unit
  | 0 => pure ()
  | fuel + 1 => do
    let s ← get
    let c := s.cursor.skipSpaces
    let c := if c.peek? = some '#' then c.skipToBreak else c
    match c.readBreak? with
    | some (_, after) =>
      moveTo after
      if !inFlow s then allowKey true
      skipToToken fuel
    | none => moveTo c

/-- Ends what is open before a directive or the mark of a document. -/
def endDocument : Step Unit := do
  closeTo (-1)
  dropKey
  allowKey false

/-- Reads one character that is a token. -/
def single (t : Token) : Step Unit := do
  moveTo (← get).cursor.next
  push t

def openFlow (t : Token) : Step Unit := do
  saveKey
  modify fun s => { s with outerKeys := s.key :: s.outerKeys, key := none }
  allowKey true
  single t

def closeFlow (t : Token) : Step Unit := do
  dropKey
  let s ← get
  match s.outerKeys with
  | [] => fail
  | key :: outer => set { s with key := key, outerKeys := outer }
  allowKey false
  single t

/-- Opens a collection outside brackets at the cursor, where a key has to be allowed. -/
def openBlock (t : Token) : Step Unit := do
  let s ← get
  if !inFlow s then
    if !s.keyAllowed then fail
    if ← openAt s.cursor.column then push t

def readEntry : Step Unit := do
  openBlock .blockSequenceStart
  allowKey true
  dropKey
  single .blockEntry

def readKey : Step Unit := do
  openBlock .blockMappingStart
  allowKey (!inFlow (← get))
  dropKey
  single .key

/-- Reads a colon: what was read at the place of a key is the key, if there is such a place. -/
def readValue : Step Unit := do
  let s ← get
  match s.key with
  | some k =>
    set { s with key := none }
    insertAt k.tokens .key
    if !inFlow s then
      if ← openAt k.column then insertAt k.tokens .blockMappingStart
    allowKey false
  | none =>
    openBlock .blockMappingStart
    allowKey (!inFlow s)
    dropKey
  single .value

/-- Reads something that may be a key or start one. -/
def readStart (read : Cursor → Except Fault (Token × Cursor)) : Step Unit := do
  saveKey
  allowKey false
  let (t, after) ← read (← get).cursor
  moveTo after
  push t

def readPlainScalar : Step Unit := do
  saveKey
  allowKey false
  let s ← get
  let (text, crossed, after) := readPlain (inFlow s) (s.indent + 1) s.cursor
  if crossed then allowKey true
  moveTo after
  push (.scalar text true)

def readBlockScalar (folded : Bool) : Step Unit := do
  allowKey true
  dropKey
  let s ← get
  let (text, after) ← readBlock folded s.indent s.cursor.next
  moveTo after
  push (.scalar text false)

/-- The characters with which a plain scalar does not start, unless, for the first three, something
follows them. -/
def startsPlain (flow : Bool) (c : Char) (next : Option Char) : Bool :=
  !(isGap (some c) || "-?:,[]\x7b\x7d#&*!|>'\"%@`".toList.contains c) ||
    (!isGap next && (c = '-' || (!flow && (c = '?' || c = ':'))))

/-- Reads one token; answers whether the text goes on. -/
def readToken : Step Bool := do
  skipToToken ((← get).cursor.rest.length + 1)
  refreshKeys
  closeTo (← get).cursor.column
  let s ← get
  let c := s.cursor
  let flow := inFlow s
  let gapAfter := isGap (c.peekAt? 1)
  let go (step : Step Unit) : Step Bool := do
    step
    return true
  match c.peek? with
  | none =>
    closeTo (-1)
    dropKey
    push .streamEnd
    return false
  | some x =>
    if x = '%' && c.column = 0 then
      go do
        endDocument
        let (t, after) ← readDirective c
        moveTo after
        push t
    else if c.column = 0 && c.atDocumentMark then
      go do
        endDocument
        moveTo (c.skip 3)
        push (if x = '-' then .documentStart else .documentEnd)
    else if x = '[' then go (openFlow .flowSequenceStart)
    else if x = '\x7b' then go (openFlow .flowMappingStart)
    else if x = ']' then go (closeFlow .flowSequenceEnd)
    else if x = '\x7d' then go (closeFlow .flowMappingEnd)
    else if x = ',' then
      go do
        allowKey true
        dropKey
        single .flowEntry
    else if x = '-' && gapAfter then go readEntry
    else if x = '?' && (flow || gapAfter) then go readKey
    else if x = ':' && (flow || gapAfter) then go readValue
    else if x = '*' then go (readStart fun c => (readAnchor c).map fun r => (.alias r.1, r.2))
    else if x = '&' then go (readStart fun c => (readAnchor c).map fun r => (.anchor r.1, r.2))
    else if x = '!' then go (readStart readTag)
    else if x = '|' && !flow then go (readBlockScalar false)
    else if x = '>' && !flow then go (readBlockScalar true)
    else if x = '\'' then
      go (readStart fun c => (readQuoted false c).map fun r => (.scalar r.1 false, r.2))
    else if x = '"' then
      go (readStart fun c => (readQuoted true c).map fun r => (.scalar r.1 false, r.2))
    else if startsPlain flow x (c.peekAt? 1) then go readPlainScalar
    else fail

def readTokens : (fuel : Nat) → Step Unit
  | 0 => pure ()
  | fuel + 1 => do if ← readToken then readTokens fuel

end Reader

/-- The tokens of a text. Every token but the last takes at least one character. -/
def Token.ofText (text : List Char) : Except Fault (List Token) := do
  if !text.all isAllowed then throw .malformed
  let start := match text with
    | '\ufeff' :: rest => rest
    | _ => text
  let (_, s) ← (Reader.readTokens (start.length + 2)).run { cursor := { rest := start } }
  return s.tokens.toList

end MarkdownAdf.Yaml
