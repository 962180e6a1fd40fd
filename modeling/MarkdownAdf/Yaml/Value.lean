import MarkdownAdf.Value.Same
import MarkdownAdf.Yaml.Scalar.Number
import MarkdownAdf.Yaml.Scalar.Stamp
import MarkdownAdf.Yaml.Tree

/-!
# The value of a document

A tree becomes a value by its tags. A mapping takes in the entries of the mappings that its merge
keys name, keeps the last value of a key, and has no collection as a key.
-/

namespace MarkdownAdf.Yaml

/-- Whether a value may be a key. -/
def isKey : Value → Bool
  | .list _ | .map _ => false
  | .foreign type _ _ _ => type != "set" && type != "dict" && type != "list"
  | _ => true

/-- Puts an entry into a map; a key that is there keeps its place. -/
def putEntry (entries : List (Value × Value)) (k v : Value) : List (Value × Value) :=
  if entries.any fun e => e.1.same k then
    entries.map fun e => if e.1.same k then (e.1, v) else e
  else entries ++ [(k, v)]

/-- A map of entries of which later ones win. -/
def mapOf (entries : List (Value × Value)) : Except Fault Value :=
  if entries.all fun e => isKey e.1 then
    .ok (.map (entries.foldl (fun m e => putEntry m e.1 e.2) []))
  else .error .malformed

/-- Pairs in the order in which they are written. -/
def pairsOf (entries : List (Value × Value)) : Value :=
  .list (entries.map fun e =>
    let form := "(" ++ e.1.quoted ++ ", " ++ e.2.quoted ++ ")"
    .foreign "tuple" form form (e.1.isShowable && e.2.isShowable))

/-- The values of keys as a set. -/
def setOf (keys : List Value) : Except Fault Value :=
  if keys.all isKey then
    let distinct := keys.foldl (fun ks k => if ks.any (·.same k) then ks else ks ++ [k]) []
    let form := if distinct.isEmpty then "set()"
      else "\x7b" ++ ", ".intercalate (distinct.map Value.quoted) ++ "\x7d"
    .ok (.foreign "set" form form (distinct.all Value.isShowable))
  else .error .malformed

namespace Tree

/-- The entries that a mapping consists of once its merge keys are resolved: those that it takes in
come first, so that its own entries win. -/
def mergedEntries : (fuel : Nat) → List (Tree × Tree) → Except Fault (List (Tree × Tree))
  | 0, _ => .error .malformed
  | fuel + 1, entries => do
    let own := entries.filter fun
      | (.scalar .merge _, _) => false
      | _ => true
    let taken ← entries.mapM fun
      | (.scalar .merge _, .mapping _ inner) => mergedEntries fuel inner
      | (.scalar .merge _, .sequence _ items) => do
        let parts ← items.mapM fun
          | .mapping _ inner => mergedEntries fuel inner
          | _ => .error .malformed
        pure parts.reverse.flatten
      | (.scalar .merge _, _) => .error .malformed
      | _ => .ok []
    return taken.flatten ++ own

/-- A key that is written as the value mark is a text. -/
def asKey : Tree → Tree
  | .scalar .value text => .scalar .str text
  | t => t

/-- The value of a scalar. -/
def scalarValue (tag : Tag) (text : String) : Except Fault Value :=
  match tag with
  | .null => .ok .null
  | .bool => (readBool text).map .bool
  | .int => (readInt text).map .int
  | .float => (readFloat text).map .float
  | .str => .ok (.str text)
  | .timestamp => readTime text
  | _ => .error .malformed

/-- The value of a tree. `fuel` bounds its depth. -/
def value : (fuel : Nat) → Tree → Except Fault Value
  | 0, _ => .error .malformed
  | fuel + 1, t =>
    let entriesOf (entries : List (Tree × Tree)) : Except Fault (List (Value × Value)) := do
      let merged ← mergedEntries (fuel + 1) entries
      merged.mapM fun e => do
        let k ← value fuel (asKey e.1)
        let v ← value fuel e.2
        return (k, v)
    let singles (items : List Tree) : Except Fault Value := do
      let pairs ← items.mapM fun
        | .mapping _ [(k, v)] => do
          let k ← value fuel k
          let v ← value fuel v
          pure (k, v)
        | _ => .error .malformed
      pure (pairsOf pairs)
    match t with
    | .scalar tag text => scalarValue tag text
    | .sequence .seq items => (items.mapM (value fuel)).map .list
    | .sequence .omap items => singles items
    | .sequence .pairs items => singles items
    | .mapping .map entries => do mapOf (← entriesOf entries)
    | .mapping .set entries => do setOf ((← entriesOf entries).map (·.1))
    | .sequence _ _ => .error .malformed
    | .mapping _ _ => .error .malformed
    | .cycle ofMapping =>
      if ofMapping then .ok (.foreign "dict" "\x7b...\x7d" "\x7b...\x7d" true)
      else .ok (.foreign "list" "[...]" "[...]" true)

end Tree

/-- The value of a text; a text without a document is null. -/
def read (text : List Char) : Except Fault Value := do
  let tokens ← Token.ofText text
  match ← Tree.ofTokens tokens with
  | none => return .null
  | some t => t.value (tokens.length + 1)

end MarkdownAdf.Yaml
