import MarkdownAdf.Yaml.Scalar.Form
import MarkdownAdf.Yaml.Token.Reader

/-!
# YAML documents as trees

A text holds at most one document. Its tree has a tag on every node: the one that is written, or the
one that the form of a plain scalar implies. An alias stands for a copy of the node that it names.
-/

namespace MarkdownAdf.Yaml

inductive Tree where
  | scalar (tag : Tag) (text : String)
  | sequence (tag : Tag) (items : List Tree)
  | mapping (tag : Tag) (entries : List (Tree × Tree))
  /-- an alias inside the collection that it names -/
  | cycle (ofMapping : Bool)
  deriving Inhabited

namespace Tree

/-- The node for which nothing is written. -/
def empty : Tree := .scalar .null ""

structure State where
  tokens : List Token
  handles : List (String × String) := defaultHandles
  /-- the anchored nodes read so far -/
  anchors : List (String × Tree) := []

abbrev Step := StateT State (Except Fault)

def fail {α : Type} : Step α := throw .malformed

def peek : Step Token := return (← get).tokens.head?.getD .streamEnd

def drop : Step Unit := modify fun s => { s with tokens := s.tokens.tail }

/-- Drops the next token when it is the given one, and answers whether it was. -/
def accept (t : Token) : Step Bool := do
  if (← peek) = t then
    drop
    return true
  else return false

def expect (t : Token) : Step Unit := do
  if !(← accept t) then fail

/-- Whether the next token is one of several. -/
def nextIn (ts : List Token) : Step Bool := return ts.contains (← peek)

/-- What is written before a node. -/
structure Properties where
  anchor : Option String := none
  tag : Option (Option String × String) := none

/-- Reads an anchor and a tag, in either order. -/
def properties : Step Properties := do
  match ← peek with
  | .anchor name =>
    drop
    match ← peek with
    | .tag handle suffix =>
      drop
      return ⟨some name, some (handle, suffix)⟩
    | _ => return ⟨some name, none⟩
  | .tag handle suffix =>
    drop
    match ← peek with
    | .anchor name =>
      drop
      return ⟨some name, some (handle, suffix)⟩
    | _ => return ⟨none, some (handle, suffix)⟩
  | _ => return {}

/-- The address of a tag; a lone mark stands for no tag. -/
def address? (tag : Option (Option String × String)) : Step (Option String) := do
  match tag with
  | none => return none
  | some (none, suffix) => return some suffix
  | some (some handle, suffix) =>
    match (← get).handles.lookup handle with
    | some start => return some (start ++ suffix)
    | none => fail

/-- Names a node; a name may be given only once. -/
def name (anchor : Option String) (t : Tree) : Step Unit :=
  match anchor with
  | none => pure ()
  | some a => modify fun s => { s with anchors := (a, t) :: s.anchors }

/-- The tag of a collection. -/
def collectionTag (address : Option String) (implied : Tag) : Tag :=
  match address with
  | none | some "!" => implied
  | some a => Tag.ofAddress a

/-- The tag of a scalar; `plain` says that its form may imply one. -/
def scalarTag (address : Option String) (plain : Bool) (text : String) : Tag :=
  match address with
  | none => if plain then impliedTag text else .str
  | some "!" => impliedTag text
  | some a => Tag.ofAddress a

/-- The tokens behind which a part of a collection outside brackets is missing. -/
def endsBlockPart : List Token := [.key, .value, .blockEnd]

mutual

/-- Reads a node. `block` allows collections outside brackets, `loose` a sequence that is not
indented further than the key before it. -/
def node (block loose : Bool) : (fuel : Nat) → Step Tree
  | 0 => fail
  | fuel + 1 => do
    match ← peek with
    | .alias a =>
      drop
      match (← get).anchors.lookup a with
      | some t => return t
      | none => fail
    | _ =>
      let written ← properties
      let address ← address? written.tag
      if let some a := written.anchor then
        if ((← get).anchors.lookup a).isSome then fail
      let sequence (read : Step (List Tree)) : Step Tree := do
        name written.anchor (.cycle false)
        return .sequence (collectionTag address .seq) (← read)
      let mapping (read : Step (List (Tree × Tree))) : Step Tree := do
        name written.anchor (.cycle true)
        return .mapping (collectionTag address .map) (← read)
      let t ← match ← peek with
        | .blockEntry =>
          if loose then sequence (looseItems fuel)
          else if written.anchor.isSome || written.tag.isSome then
            pure (.scalar (scalarTag address true "") "")
          else fail
        | .scalar text plain =>
          drop
          pure (.scalar (scalarTag address plain text) text)
        | .flowSequenceStart =>
          drop
          sequence (flowItems true fuel)
        | .flowMappingStart =>
          drop
          mapping (flowEntries true fuel)
        | other =>
          if block && other = .blockSequenceStart then
            drop
            sequence (blockItems fuel)
          else if block && other = .blockMappingStart then
            drop
            mapping (blockEntries fuel)
          else if written.anchor.isSome || written.tag.isSome then
            pure (.scalar (scalarTag address true "") "")
          else fail
      name written.anchor t
      return t

/-- Reads the items of an indented sequence. -/
def blockItems : (fuel : Nat) → Step (List Tree)
  | 0 => fail
  | fuel + 1 => do
    if ← accept .blockEntry then
      let item ← if ← nextIn [.blockEntry, .blockEnd] then pure empty else node true false fuel
      return item :: (← blockItems fuel)
    else
      expect .blockEnd
      return []

/-- Reads the items of a sequence that is not indented. -/
def looseItems : (fuel : Nat) → Step (List Tree)
  | 0 => fail
  | fuel + 1 => do
    if ← accept .blockEntry then
      let item ←
        if ← nextIn (.blockEntry :: endsBlockPart) then pure empty else node true false fuel
      return item :: (← looseItems fuel)
    else return []

/-- Reads the entries of a mapping outside brackets. A key or a value may be missing. -/
def blockEntries : (fuel : Nat) → Step (List (Tree × Tree))
  | 0 => fail
  | fuel + 1 => do
    if ← accept .key then
      let key ← if ← nextIn endsBlockPart then pure empty else node true true fuel
      let value ←
        if ← accept .value then
          if ← nextIn endsBlockPart then pure empty else node true true fuel
        else pure empty
      return (key, value) :: (← blockEntries fuel)
    else
      expect .blockEnd
      return []

/-- Reads the items of a sequence in brackets; an item may be a single entry of a mapping. -/
def flowItems (first : Bool) : (fuel : Nat) → Step (List Tree)
  | 0 => fail
  | fuel + 1 => do
    if ← accept .flowSequenceEnd then return []
    if !first then expect .flowEntry
    if ← accept .key then
      let key ← if ← nextIn [.value, .flowEntry, .flowSequenceEnd] then pure empty
        else node false false fuel
      let value ←
        if ← accept .value then
          if ← nextIn [.flowEntry, .flowSequenceEnd] then pure empty else node false false fuel
        else pure empty
      return .mapping .map [(key, value)] :: (← flowItems false fuel)
    else if ← accept .flowSequenceEnd then return []
    else
      let item ← node false false fuel
      return item :: (← flowItems false fuel)

/-- Reads the entries of a mapping in braces; an entry may be a key alone. -/
def flowEntries (first : Bool) : (fuel : Nat) → Step (List (Tree × Tree))
  | 0 => fail
  | fuel + 1 => do
    if ← accept .flowMappingEnd then return []
    if !first then expect .flowEntry
    if ← accept .key then
      let key ← if ← nextIn [.value, .flowEntry, .flowMappingEnd] then pure empty
        else node false false fuel
      let value ←
        if ← accept .value then
          if ← nextIn [.flowEntry, .flowMappingEnd] then pure empty else node false false fuel
        else pure empty
      return (key, value) :: (← flowEntries false fuel)
    else if ← accept .flowMappingEnd then return []
    else
      let key ← node false false fuel
      return (key, empty) :: (← flowEntries false fuel)

end

/-- Reads the directives before a document. -/
def directives (versioned : Bool) (handles : List (String × String)) : (fuel : Nat) → Step Unit
  | 0 => fail
  | fuel + 1 => do
    match ← peek with
    | .versionDirective major _ =>
      if versioned || major ≠ 1 then fail
      drop
      directives true handles fuel
    | .tagDirective handle value =>
      if (handles.lookup handle).isSome then fail
      drop
      directives versioned ((handle, value) :: handles) fuel
    | .otherDirective =>
      drop
      directives versioned handles fuel
    | _ => modify fun s => { s with handles := handles ++ defaultHandles }

/-- Drops marks of the end of a document. -/
def documentEnds : (fuel : Nat) → Step Unit
  | 0 => pure ()
  | fuel + 1 => do if ← accept .documentEnd then documentEnds fuel

/-- Whether the next token opens a document with a mark or a directive. -/
def opensDocument : Token → Bool
  | .versionDirective .. | .tagDirective .. | .otherDirective | .documentStart => true
  | _ => false

/-- Reads the only document of a stream, if there is one. -/
def document (fuel : Nat) : Step (Option Tree) := do
  let first ← peek
  if first = .streamEnd then return none
  if opensDocument first then
    directives false [] fuel
    expect .documentStart
    let next ← peek
    if opensDocument next || next = .documentEnd || next = .streamEnd then
      documentEnds fuel
      expect .streamEnd
      return some empty
  let root ← node true false fuel
  documentEnds fuel
  expect .streamEnd
  return some root

/-- The document of a row of tokens. Every step either takes a token or goes one level deeper, at
most twice for one token. -/
def ofTokens (tokens : List Token) : Except Fault (Option Tree) := do
  let (t, _) ← (document (4 * tokens.length + 8)).run { tokens }
  return t

end Tree

end MarkdownAdf.Yaml
