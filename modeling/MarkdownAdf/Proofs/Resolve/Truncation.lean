import MarkdownAdf.Proofs.Outline.Truncation
import MarkdownAdf.Proofs.Resolve.Tree

/-!
# Truncated tokens

A prefix of well-formed tokens is converted as if what it leaves open were closed at its end. Only a
row without cells is an exception, since it counts when it is closed.
-/

namespace MarkdownAdf

namespace TablePart

variable {α : Type}

theorem rows_append_headClose (parts : List (TablePart α)) :
    rows (parts ++ [.headClose]) = rows parts := by
  simp [rows, Rows.add, Rows.finish]

/-- A row that has a cell counts before it is closed. -/
theorem rows_append_rowClose (before : List (TablePart α)) (header : Bool) (body : α) :
    rows (before ++ [.cell header body] ++ [.rowClose]) = rows (before ++ [.cell header body]) := by
  simp [rows, Rows.add, Rows.finish]

end TablePart

namespace Site

open Outline

variable {s : Site}

theorem table_append_headClose (opening : Token) (parts : List (TablePart (Option Token))) :
    s.table opening (parts ++ [.headClose]) = s.table opening parts := by
  have hclose : s.tableParts [.headClose] = pure [.headClose] := rfl
  rw [table, table, tableParts_append, hclose]
  simp only [pure_bind, bind_assoc, TablePart.rows_append_headClose]

theorem table_append_rowClose (opening : Token) (before : List (TablePart (Option Token)))
    (header : Bool) (body : Option Token) :
    s.table opening (before ++ [.cell header body] ++ [.rowClose]) =
      s.table opening (before ++ [.cell header body]) := by
  have hcell : s.tableParts [.cell header body] = do
      return [.cell header (← s.inline body)] := rfl
  have hclose : s.tableParts [.rowClose] = pure [.rowClose] := rfl
  rw [table, table, tableParts_append, tableParts_append, hcell, hclose]
  simp only [pure_bind, bind_assoc, TablePart.rows_append_rowClose]

theorem table_ended (opening : Token) {parts ended : List (TablePart (Option Token))}
    (h : Ended parts ended) : s.table opening ended = s.table opening parts := by
  induction h with
  | refl => rfl
  | head _ ih => rw [table_append_headClose, ih]
  | row _ ih => rw [table_append_rowClose, ih]

/-! ### Blocks that can stand for each other -/

/-- Two blocks give the same, and neither can be the content of a task. -/
structure Exchangeable (s : Site) (b b' : Block) : Prop where
  block_eq : s.block b = s.block b'
  lead_left : ∀ rest, Block.lead (b :: rest) = (none, b :: rest)
  lead_right : ∀ rest, Block.lead (b' :: rest) = (none, b' :: rest)

namespace Exchangeable

variable {b b' : Block}

theorem blocks_eq (h : Exchangeable s b b') (before : List Block) :
    s.blocks (before ++ [b]) = s.blocks (before ++ [b']) := by
  simp only [blocks_append, blocks, h.block_eq]

theorem item_eq (h : Exchangeable s b b') (opening : Token) (task : Bool) (before : List Block) :
    s.item ⟨opening, task, before ++ [b]⟩ = s.item ⟨opening, task, before ++ [b']⟩ := by
  cases task with
  | false => rw [item, item, h.blocks_eq before]
  | true =>
      cases before with
      | nil =>
          rw [item_task, item_task, List.nil_append, List.nil_append, h.lead_left, h.lead_right]
          simp only [blocks, h.block_eq]
      | cons first rest =>
          -- the first block leads the task or does not, whatever stands at the end
          rw [item_task, item_task, List.cons_append, List.cons_append]
          have hall := h.blocks_eq (first :: rest)
          have hrest := h.blocks_eq rest
          cases first <;> simp only [Block.lead, ← List.cons_append, hall, hrest]

theorem items_eq {i i' : Item} (h : s.item i = s.item i') (before : List Item) :
    s.items (before ++ [i]) = s.items (before ++ [i']) := by
  induction before with
  | nil => simp only [List.nil_append, items, h]
  | cons first rest ih => rw [List.cons_append, List.cons_append, items, items, ih]

theorem blocks_finish_eq (h : Exchangeable s b b') (context : Context) (blocks : List Block) :
    s.blocks (context.finish (b :: blocks)) = s.blocks (context.finish (b' :: blocks)) := by
  induction context generalizing b b' blocks with
  | top =>
      rw [Context.finish, Context.finish, List.reverse_cons, List.reverse_cons]
      exact h.blocks_eq blocks.reverse
  | quote opening before outer ih =>
      rw [Context.finish, Context.finish]
      refine ih ⟨?_, fun _ => rfl, fun _ => rfl⟩ before
      rw [block, block, List.reverse_cons, List.reverse_cons, h.blocks_eq]
  | item list ordered items opening task before outer ih =>
      rw [Context.finish, Context.finish]
      refine ih ⟨?_, fun _ => rfl, fun _ => rfl⟩ before
      have hitem := h.item_eq opening task blocks.reverse
      rw [block, block, List.reverse_cons, List.reverse_cons, List.reverse_cons,
        List.reverse_cons, items_eq hitem]

end Exchangeable

/-- Well-formed tokens that are cut off somewhere, but not behind the opening of a row, give the
same nodes and the same events, or the same error, as they do with the closing tokens of what they
leave open. -/
theorem resolve_truncated (s : Site) {tokens before : List Token}
    (hwell : Token.WellFormed tokens) (hbefore : before <+: tokens)
    (hrow : before.getLast?.map Token.kind ≠ some .rowOpen) :
    ∃ stack, Token.leftOpen before = some stack ∧
      ∀ closers : List Token, closers.map Token.kind = stack.map Container.closing →
        Token.WellFormed (before ++ closers) ∧
          s.resolve (before ++ closers) = s.resolve before := by
  obtain ⟨stack, hopen⟩ := Container.exists_leftOpen_of_prefix hwell hbefore
  refine ⟨stack, hopen, fun closers hclosers => ⟨?_, ?_⟩⟩
  · exact Container.wellFormed_append_closers hopen hclosers
  · rw [resolve, resolve]
    rcases ofTokens_append_closers hopen hrow hclosers with
      heq | ⟨context, blocks, opening, parts, ended, hended, hopened, hclosed⟩
    · rw [heq]
    · have hexchange : Exchangeable s (.table opening ended) (.table opening parts) :=
        ⟨table_ended opening hended, fun _ => rfl, fun _ => rfl⟩
      rw [hopened, hclosed, hexchange.blocks_finish_eq]

/-- A list with an item that holds a table of one cell. -/
def tableInItem : BlockTree :=
  let ends : Delimiters := ⟨{ kind := .inline }, { kind := .inline }⟩
  let cell : CellTree := ⟨ends, true, some { kind := .inline, children := some [.text "a"] }⟩
  .list ends false [⟨ends, [.table ends ⟨ends, [⟨ends, [cell]⟩]⟩ none]⟩]

/-- The table is cut off behind the text of its cell. -/
theorem resolve_cut_tableInItem :
    let s : Site := { profile := { preset := .comment, strictMode := true } }
    let tokens := BlockTree.flattenAll [tableInItem]
    let before := tokens.take 7
    let closers := tokens.drop 7
    Token.WellFormed tokens ∧ before <+: tokens ∧
      before.getLast?.map Token.kind ≠ some .rowOpen ∧ before.length = 7 ∧
      closers.length = 6 ∧ s.resolve (before ++ closers) = s.resolve before := by
  intro s tokens before closers
  have hwell : Token.WellFormed tokens := Container.wellFormed_flattenAll [tableInItem]
  have hbefore : before <+: tokens := List.take_prefix 7 tokens
  have hrow : before.getLast?.map Token.kind ≠ some .rowOpen := by decide
  have hopen : Token.leftOpen before =
      some [.cell true, .row, .head, .table, .item, .list false] := rfl
  obtain ⟨stack, hstack, hclosers⟩ := s.resolve_truncated hwell hbefore hrow
  obtain rfl := Option.some.inj (hopen.symm.trans hstack)
  exact ⟨hwell, hbefore, hrow, rfl, rfl, (hclosers closers rfl).2⟩

end Site

end MarkdownAdf
