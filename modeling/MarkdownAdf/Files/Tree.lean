import MarkdownAdf.Files.Path
import MarkdownAdf.Text.Quoted

/-!
# A tree of files

Files and directories below one directory, which is where relative paths start. Operations give the
error that a path causes or the state behind them; nothing is changed where they fail.
-/

namespace MarkdownAdf

/-- The contents of a file. -/
abbrev Bytes := List UInt8

namespace Files

inductive Entry where
  | file (content : Bytes)
  | directory
  deriving DecidableEq, Repr

/-- What a path may run into. -/
inductive Trouble where
  | missing
  | exists
  | notDirectory
  | isDirectory
  | nameTooLong
  deriving DecidableEq, Repr

def Trouble.number : Trouble → Nat
  | missing => 2
  | .exists => 17
  | notDirectory => 20
  | isDirectory => 21
  | nameTooLong => 36

def Trouble.text : Trouble → String
  | missing => "No such file or directory"
  | .exists => "File exists"
  | notDirectory => "Not a directory"
  | isDirectory => "Is a directory"
  | nameTooLong => "File name too long"

/-- An error of the system: trouble with a path, or a refusal by the surroundings in their words. -/
inductive AccessError where
  | trouble (t : Trouble) (path : String)
  | refused (permission : Bool) (text : String)
  /-- a path with a character that no path can hold -/
  | unusablePath
  deriving DecidableEq, Repr

def AccessError.text : AccessError → String
  | trouble t path =>
    "[Errno " ++ toString t.number ++ "] " ++ t.text ++ ": " ++ Text.quoted path
  | refused _ text => text
  | unusablePath => "embedded null byte"

/-- What the surroundings refuse to do. -/
structure Refusals where
  opening : Option AccessError := none
  makingDirectories : Option AccessError := none

/-- What an operation gives, unless the surroundings refuse it. -/
def unlessRefused {α : Type} (refusal : Option AccessError) (result : Except AccessError α) :
    Except AccessError α :=
  match refusal with
  | some e => .error e
  | none => result

/-- Places of entries are lists of names from the start directory on. -/
structure Tree where
  entries : List (List String × Entry) := []
  deriving Repr

namespace Tree

/-- The entry at a place; the start directory is always there. -/
def lookup (s : Tree) : List String → Option Entry
  | [] => some .directory
  | place => s.entries.lookup place

/-- Puts an entry at a place. -/
def put (s : Tree) (place : List String) (e : Entry) : Tree :=
  if (s.entries.lookup place).isSome then
    ⟨s.entries.map fun x => if x.1 = place then (place, e) else x⟩
  else ⟨s.entries ++ [(place, e)]⟩

/-- The longest name that an entry may have, in bytes. -/
def nameLimit : Nat := 255

/-- Goes along names from a place on. Every place on the way has to be a directory. -/
def walk (s : Tree) (place : List String) : List String → Except Trouble (List String)
  | [] => .ok place
  | name :: rest =>
    match s.lookup place with
    | none => .error .missing
    | some (.file _) => .error .notDirectory
    | some .directory =>
      if name = "" || name = "." then s.walk place rest
      else if name = ".." then s.walk place.dropLast rest
      else if nameLimit < name.utf8ByteSize then .error .nameTooLong
      else s.walk (place ++ [name]) rest

/-- The place of a path. -/
def locate (s : Tree) (path : String) : Except Trouble (List String) :=
  if path = "" then .error .missing else s.walk [] (namesOf path)

/-- Whether a path leads to an entry. -/
def pathExists (s : Tree) (path : String) : Bool :=
  match s.locate path with
  | .ok place => (s.lookup place).isSome
  | .error _ => false

def isDirectory (s : Tree) (path : String) : Bool :=
  match s.locate path with
  | .ok place => s.lookup place = some .directory
  | .error _ => false

/-- Whether a path holds a character that ends it for the system. -/
def isUnusable (path : String) : Bool := path.toList.contains '\x00'

/-- The contents of the file at a path. -/
def contentAt (s : Tree) (path : String) : Except AccessError Bytes :=
  if isUnusable path then .error .unusablePath
  else
    match s.locate path with
    | .error t => .error (.trouble t path)
    | .ok place =>
      match s.lookup place with
      | some (.file content) => .ok content
      | some .directory => .error (.trouble .isDirectory path)
      | none => .error (.trouble .missing path)

/-- Where a file of a path may be written: over a file, or at a free place in a directory. -/
def placeToWrite (s : Tree) (path : String) : Except AccessError (List String) :=
  if isUnusable path then .error .unusablePath
  else
    match s.locate path with
    | .error t => .error (.trouble t path)
    | .ok place =>
      match s.lookup place with
      | some .directory => .error (.trouble .isDirectory path)
      | _ => .ok place

/-- Writes a file, over the one that is there. -/
def store (s : Tree) (path : String) (content : Bytes) : Except AccessError Tree :=
  (s.placeToWrite path).map fun place => s.put place (.file content)

/-- Adds to the end of a file, which need not exist. -/
def extend (s : Tree) (path : String) (content : Bytes) : Except AccessError Tree :=
  (s.placeToWrite path).map fun place =>
    match s.lookup place with
    | some (.file before) => s.put place (.file (before ++ content))
    | _ => s.put place (.file content)

/-- Makes one directory in a directory that exists. -/
def makeDirectory (s : Tree) (path : String) : Except AccessError Tree :=
  if isUnusable path then .error .unusablePath
  else
    match s.locate path with
    | .error t => .error (.trouble t path)
    | .ok place =>
      if (s.lookup place).isSome then .error (.trouble .exists path)
      else .ok (s.put place .directory)

/-- Makes a directory unless it is there. -/
def ensureDirectory (s : Tree) (path : String) : Tree × Except AccessError Unit :=
  match s.makeDirectory path with
  | .ok s => (s, .ok ())
  | .error e => (s, if e ≠ .unusablePath && s.isDirectory path then .ok () else .error e)

/-- The directory before the last name that is not empty, and that name. -/
def splitName (path : String) : String × String :=
  let (head, name) := splitLast path
  if name = "" then splitLast head else (head, name)

/-- Makes a directory with those above it that are missing. The error tells the directory that could
not be made; those made before it stay. `fuel` bounds the number of names. -/
def ensureDirectories : (fuel : Nat) → Tree → String → Tree × Except AccessError Unit
  | 0, s, path => s.ensureDirectory path
  | fuel + 1, s, path =>
    let (head, name) := splitName path
    if head = "" || name = "" || s.pathExists head then s.ensureDirectory path
    else
      let (s, above) := ensureDirectories fuel s head
      match above with
      | .ok _ | .error (.trouble .exists _) =>
        if name = "." then (s, .ok ()) else s.ensureDirectory path
      | .error e => (s, .error e)

/-- Makes a directory and, where it turns out that they are missing, those above it. The error tells
the directory that could not be made; those made before it stay. `fuel` bounds the number of
names. -/
def makeWithParents : (fuel : Nat) → Tree → String → Tree × Except AccessError Unit
  | 0, s, path => s.ensureDirectory path
  | fuel + 1, s, path =>
    match s.ensureDirectory path with
    | (s, .error (.trouble .missing p)) =>
      let parent := parentOf path
      if parent = path then (s, .error (.trouble .missing p))
      else
        match makeWithParents fuel s parent with
        | (s, .ok _) => s.ensureDirectory path
        | failed => failed
    | done => done

end Tree

end Files

end MarkdownAdf
