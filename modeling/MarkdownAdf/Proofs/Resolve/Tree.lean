import MarkdownAdf.Converter
import MarkdownAdf.Proofs.Outline.Reading
import MarkdownAdf.Proofs.Resolve.Outcome

/-!
# The conversion of block trees

`Site.tree` converts a block tree by recursion over the tree alone: no tokens are walked, and a
container is made of what its own children give. Converting the tokens of trees comes to the same,
whatever tokens follow them.
-/

namespace MarkdownAdf

/-- A row of a table, cell by cell. -/
def Node.rowOfCells (inHead : Bool) (cells : List (Bool × List Node)) : Node :=
  Node.tableRow (cells.map fun c => Node.cell (inHead || c.1) c.2)

namespace Site

/-- The cells of a row with whether they call themselves header cells. -/
def rowTree (s : Site) (r : RowTree) : Outcome (List (Bool × List Node)) :=
  r.cells.mapM fun c => do return (c.header, ← s.inline c.body)

def tableTree (s : Site) (ends : Delimiters) (head : SectionTree) (body : Option SectionTree) :
    Outcome (List Node) := do
  let headRows ← head.rows.mapM s.rowTree
  let bodyRows ← ((body.map SectionTree.rows).getD []).mapM s.rowTree
  if s.profile.warnOnRiskyNodes && s.profile.preset.tablesAreRisky then
    Outcome.warn { issue := .tableRisky s.profile.preset, line := ends.opening.line }
  return [Node.table (headRows.map (Node.rowOfCells true) ++ bodyRows.map (Node.rowOfCells false))]

mutual

def tree (s : Site) : BlockTree → Outcome (List Node)
  | .paragraph _ body => s.paragraph body
  | .heading ends body => s.heading ends.opening body
  | .loose body => s.paragraph (some body)
  | .fence t | .codeBlock t => return s.code t
  | .rule t => s.rule t
  | .quote ends children => do s.quote ends.opening (← s.trees children)
  | .list ends ordered items => do Site.list ends.opening ordered (← s.itemTrees ordered items)
  | .table ends head body => s.tableTree ends head body

def trees (s : Site) : List BlockTree → Outcome (List Node)
  | [] => return []
  | b :: rest => do
    let first ← s.tree b
    return first ++ (← s.trees rest)

/-- A task is made of its leading paragraph or loose text, and has no room for its other
children; another item is made of all its children. -/
def itemTree (s : Site) (ordered : Bool) : ItemTree → Outcome (Bool × Node)
  | ⟨ends, children⟩ =>
    if ItemTree.isTask ordered ⟨ends, children⟩ then
      match children with
      | .paragraph _ body :: rest => do
        let content ← s.taskContent body
        return (true, ← Site.taskItem ends.opening content (← s.trees rest))
      | .loose body :: rest => do
        let content ← s.taskContent (some body)
        return (true, ← Site.taskItem ends.opening content (← s.trees rest))
      | others => do
        return (true, ← Site.taskItem ends.opening ([], false) (← s.trees others))
    else do
      return (false, ← Site.listItem ends.opening (← s.trees children))

def itemTrees (s : Site) (ordered : Bool) : List ItemTree → Outcome (List (Bool × Node))
  | [] => return []
  | i :: rest => do
    let first ← s.itemTree ordered i
    return first :: (← s.itemTrees ordered rest)

end

end Site

/-! ### Rows of a table -/

namespace TablePart

variable {α : Type}

/-- The parts that a row of cells is written with. -/
def ofRow (cells : List (Bool × α)) : List (TablePart α) :=
  .rowOpen :: (cells.map (fun c => .cell c.1 c.2) ++ [.rowClose])

theorem foldl_add_cells (inHead : Bool) (before cells : List (Bool × α))
    (done : List (List (Bool × α))) :
    (cells.map fun c => TablePart.cell c.1 c.2).foldl Rows.add ⟨inHead, some before, done⟩ =
      ⟨inHead, some (before ++ cells.map fun c => (inHead || c.1, c.2)), done⟩ := by
  induction cells generalizing before with
  | nil => simp
  | cons c cells ih => simp [Rows.add, ih]

/-- A closed row is one more row, whatever was left open before it. -/
theorem foldl_add_ofRow (r : Rows α) (cells : List (Bool × α)) :
    (ofRow cells).foldl Rows.add r =
      ⟨r.inHead, none, r.done ++ [cells.map fun c => (r.inHead || c.1, c.2)]⟩ := by
  simp [ofRow, Rows.add, foldl_add_cells]

theorem foldl_add_rows (inHead : Bool) (done rows : List (List (Bool × α))) :
    (rows.flatMap ofRow).foldl Rows.add ⟨inHead, none, done⟩ =
      ⟨inHead, none, done ++ rows.map fun cells => cells.map fun c => (inHead || c.1, c.2)⟩ := by
  induction rows generalizing done with
  | nil => simp
  | cons cells rows ih => simp [foldl_add_ofRow, ih]

/-- Every written row is a row of the table, and its cells are header cells in the head or when they
call themselves so. -/
theorem rows_sections (head body : List (List (Bool × α))) :
    rows (.headOpen :: (head.flatMap ofRow ++ [.headClose]) ++ body.flatMap ofRow) =
      (head.map fun cells => cells.map fun c => (true, c.2)) ++ body := by
  simp [rows, Rows.add, foldl_add_rows, Rows.finish]

end TablePart

namespace Site

theorem tableParts_append (s : Site) (ps qs : List (TablePart (Option Token))) :
    s.tableParts (ps ++ qs) = do
      let first ← s.tableParts ps
      let others ← s.tableParts qs
      return first ++ others := by
  induction ps with
  | nil => simp [tableParts]
  | cons p ps ih => cases p <;> simp [tableParts, ih]

theorem inline_withKind (s : Site) (body : Option Token) (k : TokenKind) :
    s.inline (body.map (·.withKind k)) = s.inline body := by
  cases body <;> rfl

theorem tableParts_row (s : Site) (r : RowTree) :
    s.tableParts r.parts = do return TablePart.ofRow (← s.rowTree r) := by
  have hcells (cells : List CellTree) : s.tableParts (cells.map CellTree.part) = do
      let contents ← cells.mapM fun c => do return (c.header, ← s.inline c.body)
      return contents.map fun c => TablePart.cell c.1 c.2 := by
    induction cells with
    | nil => simp [tableParts]
    | cons c cells ih =>
        rw [List.map_cons, CellTree.part, tableParts, ih, inline_withKind]
        simp
  rw [RowTree.parts, tableParts, tableParts_append, hcells]
  · simp [tableParts, TablePart.map, TablePart.ofRow, rowTree]
  · simp

theorem tableParts_rows (s : Site) (rs : List RowTree) :
    s.tableParts (rs.flatMap RowTree.parts) = do
      return (← rs.mapM s.rowTree).flatMap TablePart.ofRow := by
  induction rs with
  | nil => simp [tableParts]
  | cons r rs ih => simp [tableParts_append, tableParts_row, ih]

theorem tableParts_sections (s : Site) (head : SectionTree) (rs : List RowTree) :
    s.tableParts (head.headParts ++ rs.flatMap RowTree.parts) = do
      let headRows ← head.rows.mapM s.rowTree
      let bodyRows ← rs.mapM s.rowTree
      return .headOpen :: (headRows.flatMap TablePart.ofRow ++ [.headClose]) ++
        bodyRows.flatMap TablePart.ofRow := by
  rw [SectionTree.headParts, List.cons_append, tableParts, List.append_assoc, tableParts_append,
    SectionTree.parts, tableParts_rows, tableParts_append, tableParts_rows]
  · simp [tableParts, TablePart.map]
  · simp

theorem tableOfRows_sections (head body : List (List (Bool × List Node))) :
    Node.tableOfRows ((head.map fun cells => cells.map fun c => (true, c.2)) ++ body) =
      Node.table (head.map (Node.rowOfCells true) ++ body.map (Node.rowOfCells false)) := by
  have hhead : Node.rowOfCells true =
      fun cells => Node.tableRow (cells.map fun c => Node.cell true c.2) := rfl
  have hbody : Node.rowOfCells false =
      fun cells => Node.tableRow (cells.map fun c => Node.cell c.1 c.2) := rfl
  simp [Node.tableOfRows, hhead, hbody, Function.comp_def]

theorem table_outline (s : Site) (ends : Delimiters) (head : SectionTree)
    (body : Option SectionTree) :
    s.block (BlockTree.table ends head body).outline = s.tableTree ends head body := by
  have hbody : (body.map SectionTree.parts).getD [] =
      ((body.map SectionTree.rows).getD []).flatMap RowTree.parts := by
    cases body <;> rfl
  rw [BlockTree.outline, block, table, hbody, tableParts_sections, tableTree]
  simp only [bind_assoc, pure_bind, TablePart.rows_sections, tableOfRows_sections]
  rfl

/-! ### Blocks -/

theorem heading_withKind (s : Site) (t : Token) (k : TokenKind) (body : Option Token) :
    s.heading (t.withKind k) (body.map (·.withKind .inline)) = s.heading t body := by
  have hlevel : (t.withKind k).headingLevel = t.headingLevel := by
    rw [Token.headingLevel, Token.headingLevel, Token.withKind]
  have hsource : (t.withKind k).headingSource (body.map (·.withKind .inline)) =
      t.headingSource body := by
    cases body <;> rfl
  have hline : (t.withKind k).line = t.line := rfl
  rw [heading, heading, inline_withKind, hlevel, hsource, hline]

theorem taskItem_withKind (t : Token) (k : TokenKind) (content : List Node × Bool)
    (extra : List Node) :
    Site.taskItem (t.withKind k) content extra = Site.taskItem t content extra := rfl

mutual

/-- Converting the outline of a tree is the recursion over the tree. -/
theorem block_outline (s : Site) : ∀ b : BlockTree, s.block b.outline = s.tree b
  | .paragraph _ body => by
    rw [BlockTree.outline, block, tree, paragraph, paragraph, inline_withKind]
  | .heading _ body => by rw [BlockTree.outline, block, tree, heading_withKind]
  | .loose _ | .fence _ | .codeBlock _ | .rule _ => rfl
  | .quote _ children => by
    rw [BlockTree.outline, block, tree, blocks_outlines s children]
    rfl
  | .list _ ordered is => by
    rw [BlockTree.outline, block, tree, items_itemOutlines s ordered is]
    rfl
  | .table ends head body => by rw [table_outline, tree]

theorem blocks_outlines (s : Site) : ∀ bs : List BlockTree,
    s.blocks (BlockTree.outlines bs) = s.trees bs
  | [] => rfl
  | b :: bs => by rw [BlockTree.outlines, blocks, trees, block_outline s b, blocks_outlines s bs]

theorem item_itemOutline (s : Site) (ordered : Bool) : ∀ i : ItemTree,
    s.item (BlockTree.itemOutline ordered i) = s.itemTree ordered i
  | ⟨ends, children⟩ => by
    have hchildren := blocks_outlines s children
    rw [BlockTree.itemOutline]
    unfold itemTree
    -- the cases are those of `item`: only a paragraph or loose text can lead a task
    cases ItemTree.isTask ordered ⟨ends, children⟩ with
    | false => rw [item, hchildren]; rfl
    | true =>
        cases children with
        | nil => rfl
        | cons b rest =>
            have hrest := blocks_outlines s rest
            cases b with
            | paragraph _ body =>
                cases body <;> rw [BlockTree.outlines, BlockTree.outline, item, hrest] <;> rfl
            | loose body => rw [BlockTree.outlines, BlockTree.outline, item, hrest]; rfl
            | _ =>
                rw [item, hchildren]
                all_goals simp [BlockTree.outlines, BlockTree.outline, taskItem_withKind]

theorem items_itemOutlines (s : Site) (ordered : Bool) : ∀ is : List ItemTree,
    s.items (BlockTree.itemOutlines ordered is) = s.itemTrees ordered is
  | [] => rfl
  | i :: is => by
    rw [BlockTree.itemOutlines, items, itemTrees, item_itemOutline s ordered i,
      items_itemOutlines s ordered is]

end

theorem blocks_append (s : Site) (as bs : List Block) :
    s.blocks (as ++ bs) = do
      let first ← s.blocks as
      let others ← s.blocks bs
      return first ++ others := by
  induction as with
  | nil => simp [blocks]
  | cons a as ih =>
      simp only [List.cons_append, blocks, ih, bind_assoc, pure_bind, List.append_assoc]

theorem resolve_flattenAll (s : Site) (trees : List BlockTree) :
    s.resolve (BlockTree.flattenAll trees) = s.trees trees := by
  have houtline := Outline.ofTokens_flattenAll_append trees []
  rw [List.append_nil, show Outline.ofTokens [] = [] from rfl, List.append_nil] at houtline
  rw [resolve, houtline, blocks_outlines]

/-- Tokens of trees give what the recursion over the trees gives, and the conversion goes on with
the tokens behind them as if they stood alone. -/
theorem resolve_flattenAll_append (s : Site) (trees : List BlockTree) (rest : List Token) :
    s.resolve (BlockTree.flattenAll trees ++ rest) = do
      let first ← s.trees trees
      let others ← s.resolve rest
      return first ++ others := by
  rw [resolve, Outline.ofTokens_flattenAll_append, blocks_append, blocks_outlines, resolve]

end Site

end MarkdownAdf
