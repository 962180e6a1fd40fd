import MarkdownAdf.Resolve.Leaf
import MarkdownAdf.Resolve.Table

/-!
# Blocks

The conversion of an outline into document nodes, container by container. Each container is made of
what its own children give.
-/

namespace MarkdownAdf

/-- Content that must not be empty gets an empty paragraph. -/
def Node.orParagraph (nodes : List Node) : List Node :=
  if nodes.isEmpty then [Node.paragraph] else nodes

/-- Cuts a row of flagged values into its maximal runs of one flag. -/
def flagRuns {α : Type} : List (Bool × α) → List (Bool × List α)
  | [] => []
  | (flag, a) :: rest =>
    match flagRuns rest with
    | (next, run) :: more =>
      if flag = next then (flag, a :: run) :: more else (flag, [a]) :: (next, run) :: more
    | [] => [(flag, [a])]

/-- The list of a run of items. -/
def Node.listOf (ordered : Bool) (run : Bool × List Node) : Node :=
  if run.1 then Node.taskList run.2
  else if ordered then Node.orderedList run.2
  else Node.bulletList run.2

/-- Removes the blanks that a checkbox leaves before the first text; a text of blanks is dropped. -/
def Node.trimFirst : List Node → List Node
  | [] => []
  | n :: rest =>
    if n.isText then
      let trimmed := Text.trimStart n.ownText
      if n.text = some trimmed then n :: rest
      else if trimmed = "" then rest
      else { n with text := some trimmed } :: rest
    else n :: rest

namespace Site

/-- An item of a bullet or ordered list keeps paragraphs and nested lists. -/
def listItem (opening : Token) (blocks : List Node) : Outcome Node := do
  let kept := blocks.filter fun n => n.kind.fitsListItem
  if kept.length ≠ blocks.length then
    Outcome.warn { issue := .itemBlocksDropped, line := opening.line }
  return Node.listItem (Node.orParagraph kept)

/-- The content of a task item and whether it is checked. -/
def taskContent (s : Site) (body : Option Token) : Outcome (List Node × Bool) := do
  let content ← Inline.outcome s.taskStyle ((body.map Token.inlines).getD [])
  return (Node.trimFirst content.nodes, content.sawChecked)

/-- A task item has no room for the blocks behind its content. -/
def taskItem (opening : Token) (content : List Node × Bool) (extra : List Node) : Outcome Node := do
  if !extra.isEmpty then Outcome.warn { issue := .taskBlocksDropped, line := opening.line }
  return Node.taskItem content.1 content.2

/-- A list is cut where task items and other items meet. -/
def list (opening : Token) (ordered : Bool) (items : List (Bool × Node)) : Outcome (List Node) := do
  let runs := flagRuns items
  if 1 < runs.length then Outcome.note (.splitList opening.line runs.length)
  return runs.map (Node.listOf ordered)

def quote (s : Site) (opening : Token) (inner : List Node) : Outcome (List Node) := do
  let content := Node.orParagraph inner
  if s.profile.preset.unwrapsQuotes then
    Outcome.warn { issue := .quoteUnwrapped s.profile.preset, line := opening.line }
    return content
  else return [Node.blockquote content]

/-- The content of the cells of a table, part by part. -/
def tableParts (s : Site) :
    List (TablePart (Option Token)) → Outcome (List (TablePart (List Node)))
  | [] => return []
  | .cell header body :: rest => do
    let content ← s.inline body
    return .cell header content :: (← s.tableParts rest)
  | part :: rest => return part.map (fun _ => []) :: (← s.tableParts rest)

def table (s : Site) (opening : Token) (parts : List (TablePart (Option Token))) :
    Outcome (List Node) := do
  let cells ← s.tableParts parts
  if s.profile.warnOnRiskyNodes && s.profile.preset.tablesAreRisky then
    Outcome.warn { issue := .tableRisky s.profile.preset, line := opening.line }
  return [Node.tableOfRows (TablePart.rows cells)]

mutual

def block (s : Site) : Block → Outcome (List Node)
  | .paragraph _ body => s.paragraph body
  | .heading opening body => s.heading opening body
  | .loose body => s.paragraph (some body)
  | .code t => return s.code t
  | .rule t => s.rule t
  | .quote opening children => do s.quote opening (← s.blocks children)
  | .list opening ordered items => do Site.list opening ordered (← s.items items)
  | .table opening parts => s.table opening parts
  | .stray t => do
    Outcome.note (.skippedBlock t.kind.name)
    return []

def blocks (s : Site) : List Block → Outcome (List Node)
  | [] => return []
  | b :: rest => do
    let first ← s.block b
    return first ++ (← s.blocks rest)

/-- An item with whether it is a task. The content of a task is its first child, when that is a
paragraph or a loose text. -/
def item (s : Site) : Item → Outcome (Bool × Node)
  | ⟨opening, false, children⟩ => do
    return (false, ← Site.listItem opening (← s.blocks children))
  | ⟨opening, true, .paragraph _ body :: rest⟩ => do
    let content ← s.taskContent body
    return (true, ← Site.taskItem opening content (← s.blocks rest))
  | ⟨opening, true, .loose body :: rest⟩ => do
    let content ← s.taskContent (some body)
    return (true, ← Site.taskItem opening content (← s.blocks rest))
  | ⟨opening, true, children⟩ => do
    return (true, ← Site.taskItem opening ([], false) (← s.blocks children))

def items (s : Site) : List Item → Outcome (List (Bool × Node))
  | [] => return []
  | i :: rest => do
    let first ← s.item i
    return first :: (← s.items rest)

end

end Site

/-! ### Tasks -/

/-- The paragraph or loose text that leads the children of a task, if one does, and the other
children. -/
def Block.lead : List Block → Option (Option Token) × List Block
  | .paragraph _ body :: rest => (some body, rest)
  | .loose body :: rest => (some (some body), rest)
  | others => (none, others)

/-- What holds of all children and of those behind the first holds of those behind the lead. -/
theorem Block.lead_snd {P : List Block → Prop} {b : Block} {rest : List Block}
    (hall : P (b :: rest)) (hrest : P rest) : P (Block.lead (b :: rest)).2 := by
  cases b <;> assumption

namespace Site

/-- The content of a task and whether it is checked, from what leads its children. -/
def leadContent (s : Site) : Option (Option Token) → Outcome (List Node × Bool)
  | some body => s.taskContent body
  | none => return ([], false)

theorem item_task (s : Site) (opening : Token) (children : List Block) :
    s.item ⟨opening, true, children⟩ = do
      let content ← s.leadContent (Block.lead children).1
      return (true, ← Site.taskItem opening content (← s.blocks (Block.lead children).2)) := by
  cases children with
  | nil => rfl
  | cons b rest => cases b <;> rfl

end Site

end MarkdownAdf
