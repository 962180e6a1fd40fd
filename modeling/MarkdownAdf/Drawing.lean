import MarkdownAdf.Converter

/-!
# Drawing local ids

A document that is written out has its local ids numbered in document order. A conversion that runs
draws them from a supply while it goes through the tokens: a task list or task item gets its id when
it is built, which is behind everything in it, and ids are also drawn for nodes that are dropped
later on.
-/

namespace MarkdownAdf

namespace Node

/-- The node with a local id. -/
def withLocalId (n : Node) (localId : String) : Node :=
  { n with attrs := ("localId", .str localId) :: n.attrs }

/-- Draws the id of a node that has just been built, if it is of a kind that carries one; `next` ids
were drawn before. Answers with the node and the number of ids drawn behind it. -/
def draw (id : Nat → String) (next : Nat) (n : Node) : Node × Nat :=
  if n.kind.isLabelled then (n.withLocalId (id next), next + 1) else (n, next)

def drawAll (id : Nat → String) (next : Nat) : List Node → List Node × Nat
  | [] => ([], next)
  | n :: rest =>
    let first := draw id next n
    let others := drawAll id first.2 rest
    (first.1 :: others.1, others.2)

end Node

namespace Site

/-- A task draws its id when its content and the blocks behind it are resolved. -/
def drawTask (id : Nat → String) (opening : Token) (content : List Node × Bool)
    (extra : List Node × Nat) : Outcome ((Bool × Node) × Nat) := do
  let task := Node.draw id extra.2 (← Site.taskItem opening content extra.1)
  return ((true, task.1), task.2)

mutual

/-- The nodes of a block with the ids drawn for them. -/
def drawBlock (s : Site) (id : Nat → String) (next : Nat) : Block → Outcome (List Node × Nat)
  | .quote opening children => do
    let inner ← s.drawBlocks id next children
    return (← s.quote opening inner.1, inner.2)
  | .list opening ordered items => do
    let found ← s.drawItems id next items
    return Node.drawAll id found.2 (← Site.list opening ordered found.1)
  | b => do return (← s.block b, next)

def drawBlocks (s : Site) (id : Nat → String) (next : Nat) :
    List Block → Outcome (List Node × Nat)
  | [] => return ([], next)
  | b :: rest => do
    let first ← s.drawBlock id next b
    let others ← s.drawBlocks id first.2 rest
    return (first.1 ++ others.1, others.2)

def drawItem (s : Site) (id : Nat → String) (next : Nat) : Item → Outcome ((Bool × Node) × Nat)
  | ⟨opening, false, children⟩ => do
    let blocks ← s.drawBlocks id next children
    return ((false, ← Site.listItem opening blocks.1), blocks.2)
  | ⟨opening, true, .paragraph _ body :: rest⟩ => do
    let content ← s.taskContent body
    Site.drawTask id opening content (← s.drawBlocks id next rest)
  | ⟨opening, true, .loose body :: rest⟩ => do
    let content ← s.taskContent (some body)
    Site.drawTask id opening content (← s.drawBlocks id next rest)
  | ⟨opening, true, children⟩ => do
    Site.drawTask id opening ([], false) (← s.drawBlocks id next children)

def drawItems (s : Site) (id : Nat → String) (next : Nat) :
    List Item → Outcome (List (Bool × Node) × Nat)
  | [] => return ([], next)
  | i :: rest => do
    let first ← s.drawItem id next i
    let others ← s.drawItems id first.2 rest
    return (first.1 :: others.1, others.2)

end

theorem drawItem_task (s : Site) (id : Nat → String) (next : Nat) (opening : Token)
    (children : List Block) :
    s.drawItem id next ⟨opening, true, children⟩ = (do
      let content ← s.leadContent (Block.lead children).1
      Site.drawTask id opening content (← s.drawBlocks id next (Block.lead children).2)) := by
  cases children with
  | nil => rfl
  | cons b rest => cases b <;> rfl

end Site

/-- Converts a text with a supply from which `next` ids were drawn before. Answers also with the
number of ids drawn behind it. -/
def Profile.convertDrawing (p : Profile) (id : Nat → String) (next : Nat)
    (tokenize : String → Except String (List Token)) (markdown : String) :
    Except Failure (Conversion × Nat) :=
  if Text.isBlankText markdown then .ok (⟨Document.blank, []⟩, next)
  else
    match tokenize markdown with
    | .error reason => .error (.rejected (Warning.untokenized reason))
    | .ok tokens =>
      let outcome :=
        (Site.mk p (Text.lines markdown)).drawBlocks id next (Outline.ofTokens tokens)
      match outcome.result with
      | .error n => .error (.rejected n.rejection)
      | .ok nodes =>
        .ok (⟨{ content := Node.orParagraph nodes.1 }, warnings outcome.events⟩, nodes.2)

end MarkdownAdf
