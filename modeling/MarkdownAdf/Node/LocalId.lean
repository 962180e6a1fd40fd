import MarkdownAdf.Node.Build

/-!
# Local ids

Task lists and task items carry a local id. Conversion builds them without one; `Node.label` then
numbers them in document order and gives each the id of its number.
-/

namespace MarkdownAdf

/-- Whether nodes of the kind carry a local id. -/
def NodeKind.isLabelled : NodeKind → Bool
  | .taskList | .taskItem => true
  | _ => false

namespace Node

mutual

/-- Gives ids to the labelled nodes of a tree, from number `next` on; answers with the tree and the
next number. -/
def label (id : Nat → String) (next : Nat) : Node → Node × Nat
  | ⟨type, content, text, attrs, marks⟩ =>
    if (NodeKind.ofName type).isLabelled then
      let below := labelAll id (next + 1) content
      (⟨type, below.1, text, ("localId", .str (id next)) :: attrs, marks⟩, below.2)
    else
      let below := labelAll id next content
      (⟨type, below.1, text, attrs, marks⟩, below.2)

def labelAll (id : Nat → String) (next : Nat) : List Node → List Node × Nat
  | [] => ([], next)
  | n :: rest =>
    let first := label id next n
    let others := labelAll id first.2 rest
    (first.1 :: others.1, others.2)

end

mutual

/-- Renames the local ids of a tree. -/
def renameIds (rename : String → String) : Node → Node
  | ⟨type, content, text, attrs, marks⟩ =>
    ⟨type, renameAllIds rename content, text,
      attrs.map fun
        | ("localId", .str s) => ("localId", .str (rename s))
        | a => a,
      marks⟩

def renameAllIds (rename : String → String) : List Node → List Node
  | [] => []
  | n :: rest => renameIds rename n :: renameAllIds rename rest

end

end Node

/-- A document with its task lists and task items numbered from zero. -/
def Document.label (id : Nat → String) (d : Document) : Document :=
  { d with content := (Node.labelAll id 0 d.content).1 }

end MarkdownAdf
