import MarkdownAdf.Outline.Reader
import MarkdownAdf.Proofs.Outline.Tree

/-!
# Reading what trees write

The reader turns the tokens of a tree into the outline of the tree, whatever is open around them and
whatever follows. What stands before a place at the top has no influence on what is read there, so
the outline of a row of tokens that starts with trees is their outlines with that of the rest.
-/

namespace MarkdownAdf.Outline

@[simp]
theorem withKind_kind (t : Token) (k : TokenKind) : (t.withKind k).kind = k := rfl

@[simp]
theorem hasTaskClass_withKind (t : Token) (k : TokenKind) :
    (t.withKind k).hasTaskClass = t.hasTaskClass := rfl

@[simp]
theorem hasCheckbox_withKind (t : Token) (k : TokenKind) :
    (t.withKind k).hasCheckbox = t.hasCheckbox := rfl

@[simp]
theorem State.readAll_nil (s : State) : s.readAll [] = s := rfl

@[simp]
theorem State.readAll_cons (s : State) (t : Token) (rest : List Token) :
    s.readAll (t :: rest) = (s.read t rest).readAll rest := rfl

/-! ### Own checkboxes of an item

The scan for checkboxes counts the nested items that are open. A written tree closes what it opens,
so the count is the same behind it, and only at count zero is it looked into. -/

theorem itemHasCheckbox_ofBody (depth : Nat) (body : Option Token) (rest : List Token) :
    Token.itemHasCheckbox depth (Token.ofBody body ++ rest) =
      (depth == 0 && body.any Token.hasCheckbox || Token.itemHasCheckbox depth rest) := by
  cases body with
  | none => simp [Token.ofBody]
  | some t => cases depth <;> simp [Token.ofBody, Token.itemHasCheckbox]

/-- A token that neither opens nor closes an item and is no inline token is passed over. -/
theorem itemHasCheckbox_cons (depth : Nat) (t : Token) (rest : List Token)
    (hopen : t.kind ≠ .itemOpen) (hclose : t.kind ≠ .itemClose) (hinline : t.kind ≠ .inline) :
    Token.itemHasCheckbox depth (t :: rest) = Token.itemHasCheckbox depth rest := by
  conv => lhs; unfold Token.itemHasCheckbox
  split <;> simp_all

theorem itemHasCheckbox_around (d : Delimiters) (first last : TokenKind) (inner rest : List Token)
    (depth : Nat) (own : Bool)
    (hfirst : first ≠ .itemOpen ∧ first ≠ .itemClose ∧ first ≠ .inline)
    (hlast : last ≠ .itemOpen ∧ last ≠ .itemClose ∧ last ≠ .inline)
    (hinner : ∀ rest, Token.itemHasCheckbox depth (inner ++ rest) =
      (depth == 0 && own || Token.itemHasCheckbox depth rest)) :
    Token.itemHasCheckbox depth (d.around first last inner ++ rest) =
      (depth == 0 && own || Token.itemHasCheckbox depth rest) := by
  rw [Delimiters.around_append, itemHasCheckbox_cons _ _ _ hfirst.1 hfirst.2.1 hfirst.2.2, hinner,
    itemHasCheckbox_cons _ _ _ hlast.1 hlast.2.1 hlast.2.2]

/-- The scan over a row of written pieces, when each piece is scanned on its own. -/
theorem itemHasCheckbox_flatMap {α : Type} (write : α → List Token) (own : α → Bool) (depth : Nat)
    (hwrite : ∀ a rest, Token.itemHasCheckbox depth (write a ++ rest) =
      (depth == 0 && own a || Token.itemHasCheckbox depth rest))
    (as : List α) (rest : List Token) :
    Token.itemHasCheckbox depth (as.flatMap write ++ rest) =
      (depth == 0 && as.any own || Token.itemHasCheckbox depth rest) := by
  induction as with
  | nil => simp
  | cons a as ih =>
      rw [List.flatMap_cons, List.append_assoc, hwrite, ih, List.any_cons, Bool.and_or_distrib_left,
        Bool.or_assoc]

theorem itemHasCheckbox_cell (depth : Nat) (c : CellTree) (rest : List Token) :
    Token.itemHasCheckbox depth (c.flatten ++ rest) =
      (depth == 0 && c.hasCheckbox || Token.itemHasCheckbox depth rest) :=
  itemHasCheckbox_around _ _ _ _ _ _ _ (by simp) (by simp) (itemHasCheckbox_ofBody depth c.body)

theorem itemHasCheckbox_row (depth : Nat) (r : RowTree) (rest : List Token) :
    Token.itemHasCheckbox depth (r.flatten ++ rest) =
      (depth == 0 && r.hasCheckbox || Token.itemHasCheckbox depth rest) :=
  itemHasCheckbox_around _ _ _ _ _ _ _ (by simp) (by simp)
    (itemHasCheckbox_flatMap _ _ depth (itemHasCheckbox_cell depth) r.cells)

theorem itemHasCheckbox_rows (depth : Nat) (x : SectionTree) (rest : List Token) :
    Token.itemHasCheckbox depth (x.flattenRows ++ rest) =
      (depth == 0 && x.hasCheckbox || Token.itemHasCheckbox depth rest) :=
  itemHasCheckbox_flatMap _ _ depth (itemHasCheckbox_row depth) x.rows rest

theorem itemHasCheckbox_sections (depth : Nat) (head : SectionTree) (body : Option SectionTree)
    (rest : List Token) :
    Token.itemHasCheckbox depth
        ((head.flattenHead ++ (body.map SectionTree.flattenBody).getD []) ++ rest) =
      (depth == 0 && (head.hasCheckbox || body.any SectionTree.hasCheckbox) ||
        Token.itemHasCheckbox depth rest) := by
  have hhead (rest) := itemHasCheckbox_around head.ends .headOpen .headClose head.flattenRows rest
    depth head.hasCheckbox (by simp) (by simp) (itemHasCheckbox_rows depth head)
  rw [List.append_assoc, SectionTree.flattenHead, hhead]
  cases body with
  | none => simp
  | some x =>
      rw [Option.map_some, Option.getD_some, SectionTree.flattenBody,
        itemHasCheckbox_around _ _ _ _ _ _ _ (by simp) (by simp) (itemHasCheckbox_rows depth x)]
      simp [Bool.and_or_distrib_left, Bool.or_assoc]

mutual

theorem itemHasCheckbox_flatten (depth : Nat) : ∀ (b : BlockTree) (rest : List Token),
    Token.itemHasCheckbox depth (b.flatten ++ rest) =
      (depth == 0 && b.hasCheckbox || Token.itemHasCheckbox depth rest)
  | .paragraph _ body, _ | .heading _ body, _ =>
    itemHasCheckbox_around _ _ _ _ _ _ _ (by simp) (by simp) (itemHasCheckbox_ofBody depth body)
  | .loose body, rest => itemHasCheckbox_ofBody depth (some body) rest
  | .fence t, rest | .codeBlock t, rest | .rule t, rest => by
    rw [BlockTree.flatten, BlockTree.hasCheckbox, List.singleton_append,
      itemHasCheckbox_cons] <;> simp
  | .quote _ children, _ =>
    itemHasCheckbox_around _ _ _ _ _ _ _ (by simp) (by simp)
      (itemHasCheckbox_flattenAll depth children)
  | .list _ ordered items, rest => by
    rw [BlockTree.flatten, BlockTree.hasCheckbox]
    exact itemHasCheckbox_around _ _ _ _ _ _ _ (by simp) (by simp)
      (by simpa using itemHasCheckbox_flattenItems depth items)
  | .table _ head body, _ =>
    itemHasCheckbox_around _ _ _ _ _ _ _ (by simp) (by simp)
      (itemHasCheckbox_sections depth head body)

theorem itemHasCheckbox_flattenAll (depth : Nat) : ∀ (bs : List BlockTree) (rest : List Token),
    Token.itemHasCheckbox depth (BlockTree.flattenAll bs ++ rest) =
      (depth == 0 && BlockTree.anyCheckbox bs || Token.itemHasCheckbox depth rest)
  | [], _ => by simp [BlockTree.flattenAll, BlockTree.anyCheckbox]
  | b :: bs, rest => by
    rw [BlockTree.flattenAll, BlockTree.anyCheckbox, List.append_assoc, itemHasCheckbox_flatten,
      itemHasCheckbox_flattenAll, Bool.and_or_distrib_left, Bool.or_assoc]

theorem itemHasCheckbox_flattenItem (depth : Nat) : ∀ (i : ItemTree) (rest : List Token),
    Token.itemHasCheckbox depth (BlockTree.flattenItem i ++ rest) =
      Token.itemHasCheckbox depth rest
  | ⟨_, children⟩, rest => by
    rw [BlockTree.flattenItem, Delimiters.around_append]
    simp [Token.itemHasCheckbox, itemHasCheckbox_flattenAll (depth + 1) children]

theorem itemHasCheckbox_flattenItems (depth : Nat) : ∀ (is : List ItemTree) (rest : List Token),
    Token.itemHasCheckbox depth (BlockTree.flattenItems is ++ rest) =
      Token.itemHasCheckbox depth rest
  | [], _ => rfl
  | i :: is, rest => by
    rw [BlockTree.flattenItems, List.append_assoc, itemHasCheckbox_flattenItem,
      itemHasCheckbox_flattenItems]

end

/-- Whether an item is a task is decided by its own tree, whatever follows it. -/
theorem opensTask_item (ends : Delimiters) (children : List BlockTree) (ordered : Bool)
    (rest : List Token) :
    (!ordered && (ends.opening.withKind .itemOpen).opensTask
      (BlockTree.flattenAll children ++ ends.closing.withKind .itemClose :: rest)) =
      ItemTree.isTask ordered ⟨ends, children⟩ := by
  simp [Token.opensTask, itemHasCheckbox_flattenAll, Token.itemHasCheckbox, ItemTree.isTask,
    ItemTree.ends, ItemTree.children]

/-! ### Leaves and tables -/

/-- A token that does not close a container is read among its blocks. -/
theorem State.read_atBlock {context : Context} {blocks : List Block} {t : Token}
    {rest : List Token} (hquote : t.kind ≠ .quoteClose) (hitem : t.kind ≠ .itemClose) :
    (State.atBlock context blocks).read t rest = State.readBlock context blocks t := by
  have hclosing : context.closing ≠ some t.kind := by
    cases context with
    | top => simp [Context.closing]
    | quote => simpa [Context.closing] using hquote.symm
    | item => simpa [Context.closing] using hitem.symm
  simp [State.read, hclosing]

theorem State.readAll_leaf (context : Context) (blocks : List Block) (leaf : Leaf)
    (opening closing : Token) (body : Option Token) (rest : List Token) :
    (State.inLeaf context blocks leaf opening none).readAll
        (Token.ofBody body ++ closing.withKind leaf.closing :: rest) =
      (State.atBlock context
        (leaf.block opening (body.map (·.withKind .inline)) :: blocks)).readAll rest := by
  cases body <;> cases leaf <;> simp [Token.ofBody, State.read, Leaf.closing, bodyWith]

theorem State.readAll_cell (context : Context) (blocks : List Block) (opening : Token)
    (parts : List (TablePart (Option Token))) (c : CellTree) (rest : List Token) :
    (State.inTable context blocks opening parts).readAll (c.flatten ++ rest) =
      (State.inTable context blocks opening (c.part :: parts)).readAll rest := by
  rw [CellTree.flatten, Delimiters.around_append]
  cases hbody : c.body <;>
    simp [Token.ofBody, State.read, State.readTable, bodyWith, CellTree.part, hbody]

/-- The parts of written pieces of a table are added in their order. -/
theorem State.readAll_flatMap {α : Type} (write : α → List Token)
    (parts : α → List (TablePart (Option Token))) (context : Context) (blocks : List Block)
    (opening : Token)
    (hwrite : ∀ a before rest,
      (State.inTable context blocks opening before).readAll (write a ++ rest) =
        (State.inTable context blocks opening ((parts a).reverse ++ before)).readAll rest)
    (as : List α) (before : List (TablePart (Option Token))) (rest : List Token) :
    (State.inTable context blocks opening before).readAll (as.flatMap write ++ rest) =
      (State.inTable context blocks opening ((as.flatMap parts).reverse ++ before)).readAll
        rest := by
  induction as generalizing before with
  | nil => rfl
  | cons a as ih =>
      rw [List.flatMap_cons, List.append_assoc, hwrite, ih, List.flatMap_cons,
        List.reverse_append, List.append_assoc]

theorem State.readAll_row (context : Context) (blocks : List Block) (opening : Token)
    (r : RowTree) (before : List (TablePart (Option Token))) (rest : List Token) :
    (State.inTable context blocks opening before).readAll (r.flatten ++ rest) =
      (State.inTable context blocks opening (r.parts.reverse ++ before)).readAll rest := by
  have hcells := State.readAll_flatMap CellTree.flatten (fun c => [c.part]) context blocks opening
    (fun c parts rest => State.readAll_cell context blocks opening parts c rest) r.cells
  rw [RowTree.flatten, Delimiters.around_append, State.readAll_cons]
  simp only [State.read, State.readTable, tablePart?, withKind_kind]
  rw [hcells]
  simp [State.read, State.readTable, tablePart?, RowTree.parts, List.map_eq_flatMap]

theorem State.readAll_rows (context : Context) (blocks : List Block) (opening : Token)
    (x : SectionTree) (before : List (TablePart (Option Token))) (rest : List Token) :
    (State.inTable context blocks opening before).readAll (x.flattenRows ++ rest) =
      (State.inTable context blocks opening (x.parts.reverse ++ before)).readAll rest :=
  State.readAll_flatMap RowTree.flatten RowTree.parts context blocks opening
    (State.readAll_row context blocks opening) x.rows before rest

theorem State.readAll_head (context : Context) (blocks : List Block) (opening : Token)
    (x : SectionTree) (before : List (TablePart (Option Token))) (rest : List Token) :
    (State.inTable context blocks opening before).readAll (x.flattenHead ++ rest) =
      (State.inTable context blocks opening (x.headParts.reverse ++ before)).readAll rest := by
  rw [SectionTree.flattenHead, Delimiters.around_append, State.readAll_cons]
  simp only [State.read, State.readTable, tablePart?, withKind_kind]
  rw [State.readAll_rows]
  simp [State.read, State.readTable, tablePart?, SectionTree.headParts]

/-- The tokens around the body of a table are passed over. -/
theorem State.readAll_body (context : Context) (blocks : List Block) (opening : Token)
    (x : SectionTree) (before : List (TablePart (Option Token))) (rest : List Token) :
    (State.inTable context blocks opening before).readAll (x.flattenBody ++ rest) =
      (State.inTable context blocks opening (x.parts.reverse ++ before)).readAll rest := by
  rw [SectionTree.flattenBody, Delimiters.around_append, State.readAll_cons]
  simp only [State.read, State.readTable, tablePart?, withKind_kind]
  rw [State.readAll_rows]
  simp [State.read, State.readTable, tablePart?]

/-! ### Blocks -/

mutual

/-- Reading a written tree adds its outline to the blocks before it. -/
theorem State.readAll_flatten : ∀ (b : BlockTree) (context : Context) (blocks : List Block)
    (rest : List Token), (State.atBlock context blocks).readAll (b.flatten ++ rest) =
      (State.atBlock context (b.outline :: blocks)).readAll rest
  | .paragraph ends body, context, blocks, rest => by
    rw [BlockTree.flatten, Delimiters.around_append, State.readAll_cons,
      State.read_atBlock (by simp) (by simp)]
    exact State.readAll_leaf context blocks .paragraph _ _ body rest
  | .heading ends body, context, blocks, rest => by
    rw [BlockTree.flatten, Delimiters.around_append, State.readAll_cons,
      State.read_atBlock (by simp) (by simp)]
    exact State.readAll_leaf context blocks .heading _ _ body rest
  | .loose t, _, _, _ | .fence t, _, _, _ | .codeBlock t, _, _, _ | .rule t, _, _, _ => by
    rw [BlockTree.flatten, List.singleton_append, State.readAll_cons,
      State.read_atBlock (by simp) (by simp)]
    rfl
  | .quote ends children, context, blocks, rest => by
    rw [BlockTree.flatten, Delimiters.around_append, State.readAll_cons,
      State.read_atBlock (by simp) (by simp)]
    simp only [State.readBlock, withKind_kind]
    -- the children are read in the context of the quote, with its closing token in their rest
    rw [State.readAll_flattenAll]
    simp [State.read, Context.closing, Context.leave, BlockTree.outline]
  | .list ends ordered items, context, blocks, rest => by
    rw [BlockTree.flatten, Delimiters.around_append, State.readAll_cons,
      State.read_atBlock (by simp) (by simp)]
    simp only [State.readBlock, withKind_kind]
    rw [State.readAll_flattenItems]
    simp [State.read, BlockTree.outline]
  | .table ends head body, context, blocks, rest => by
    rw [BlockTree.flatten, Delimiters.around_append, State.readAll_cons,
      State.read_atBlock (by simp) (by simp)]
    simp only [State.readBlock, withKind_kind]
    rw [List.append_assoc, State.readAll_head]
    cases body with
    | none => simp [State.read, State.readTable, BlockTree.outline]
    | some x =>
        rw [Option.map_some, Option.getD_some, State.readAll_body]
        simp [State.read, State.readTable, BlockTree.outline]

theorem State.readAll_flattenAll : ∀ (bs : List BlockTree) (context : Context)
    (blocks : List Block) (rest : List Token),
    (State.atBlock context blocks).readAll (BlockTree.flattenAll bs ++ rest) =
      (State.atBlock context ((BlockTree.outlines bs).reverse ++ blocks)).readAll rest
  | [], _, _, _ => rfl
  | b :: bs, context, blocks, rest => by
    rw [BlockTree.flattenAll, List.append_assoc, State.readAll_flatten b,
      State.readAll_flattenAll bs, BlockTree.outlines, List.reverse_cons, List.append_assoc,
      List.singleton_append]

theorem State.readAll_flattenItem : ∀ (i : ItemTree) (context : Context) (blocks : List Block)
    (opening : Token) (ordered : Bool) (items : List Item) (rest : List Token),
    (State.inList context blocks opening ordered items).readAll (BlockTree.flattenItem i ++ rest) =
      (State.inList context blocks opening ordered
        (BlockTree.itemOutline ordered i :: items)).readAll rest
  | ⟨ends, children⟩, context, blocks, opening, ordered, items, rest => by
    rw [BlockTree.flattenItem, Delimiters.around_append, State.readAll_cons]
    simp only [State.read, withKind_kind, reduceCtorEq, ↓reduceIte]
    -- the reader looks ahead for a checkbox before it goes through the children
    rw [opensTask_item, State.readAll_flattenAll]
    simp [State.read, Context.closing, Context.leave, BlockTree.itemOutline]

theorem State.readAll_flattenItems : ∀ (is : List ItemTree) (context : Context)
    (blocks : List Block) (opening : Token) (ordered : Bool) (items : List Item)
    (rest : List Token),
    (State.inList context blocks opening ordered items).readAll
        (BlockTree.flattenItems is ++ rest) =
      (State.inList context blocks opening ordered
        ((BlockTree.itemOutlines ordered is).reverse ++ items)).readAll rest
  | [], _, _, _, _, _, _ => rfl
  | i :: is, context, blocks, opening, ordered, items, rest => by
    rw [BlockTree.flattenItems, List.append_assoc, State.readAll_flattenItem i,
      State.readAll_flattenItems is, BlockTree.itemOutlines, List.reverse_cons,
      List.append_assoc, List.singleton_append]

end

/-! ### What stands before

Blocks that were read before a place at the top stay below everything that is read later. -/

namespace Context

/-- The blocks of the innermost container, on top of `base` when that container is the top. -/
def onto (base blocks : List Block) : Context → List Block
  | .top => blocks ++ base
  | _ => blocks

/-- The same containers, opened behind the blocks `base` at the top. -/
def behind (base : List Block) : Context → Context
  | .top => .top
  | .quote opening before outer =>
    .quote opening (outer.onto base before) (outer.behind base)
  | .item list ordered items opening task before outer =>
    .item list ordered items opening task (outer.onto base before) (outer.behind base)

@[simp]
theorem onto_quote (base blocks before : List Block) (opening : Token) (outer : Context) :
    (quote opening before outer).onto base blocks = blocks := rfl

@[simp]
theorem onto_item (base blocks before : List Block) (list opening : Token) (ordered task : Bool)
    (items : List Item) (outer : Context) :
    (item list ordered items opening task before outer).onto base blocks = blocks := rfl

@[simp]
theorem onto_cons (base blocks : List Block) (b : Block) (c : Context) :
    c.onto base (b :: blocks) = b :: c.onto base blocks := by
  cases c <;> rfl

@[simp]
theorem closing_behind (base : List Block) (c : Context) :
    (c.behind base).closing = c.closing := by
  cases c <;> rfl

theorem finish_behind (base blocks : List Block) (c : Context) :
    (c.behind base).finish (c.onto base blocks) = base.reverse ++ c.finish blocks := by
  induction c generalizing blocks with
  | top => simp [behind, onto, finish]
  | quote opening before outer ih =>
      rw [behind, finish, finish, ← ih, onto_cons]
      rfl
  | item list ordered items opening task before outer ih =>
      rw [behind, finish, finish, ← ih, onto_cons]
      rfl

end Context

namespace State

/-- The same place, behind the blocks `base` at the top. -/
def behind (base : List Block) : State → State
  | .atBlock c blocks => .atBlock (c.behind base) (c.onto base blocks)
  | .inLeaf c blocks leaf opening body =>
    .inLeaf (c.behind base) (c.onto base blocks) leaf opening body
  | .inList c blocks opening ordered items =>
    .inList (c.behind base) (c.onto base blocks) opening ordered items
  | .inTable c blocks opening parts => .inTable (c.behind base) (c.onto base blocks) opening parts
  | .inCell c blocks opening parts header body =>
    .inCell (c.behind base) (c.onto base blocks) opening parts header body

theorem leave_behind (base blocks : List Block) (c : Context) (hc : c ≠ .top) :
    (c.behind base).leave (c.onto base blocks) = (c.leave blocks).behind base := by
  cases c with
  | top => exact absurd rfl hc
  | quote | item => simp [Context.leave, Context.behind, behind]

theorem readBlock_behind (base blocks : List Block) (c : Context) (t : Token) :
    readBlock (c.behind base) (c.onto base blocks) t = (readBlock c blocks t).behind base := by
  simp only [readBlock]
  split <;> simp [behind, Context.behind]

theorem readTable_behind (base blocks : List Block) (c : Context) (opening : Token)
    (parts : List (TablePart (Option Token))) (t : Token) :
    readTable (c.behind base) (c.onto base blocks) opening parts t =
      (readTable c blocks opening parts t).behind base := by
  simp only [readTable]
  split
  · simp [behind]
  · simp [behind]
  · split <;> simp [behind]

theorem read_behind (base : List Block) (s : State) (t : Token) (rest : List Token) :
    (s.behind base).read t rest = (s.read t rest).behind base := by
  cases s with
  | atBlock c blocks =>
      by_cases hclosing : c.closing = some t.kind
      · -- nothing closes the top, so a container is left here and `base` stays below
        have hc : c ≠ .top := by
          rintro rfl
          simp [Context.closing] at hclosing
        simp [behind, read, hclosing, leave_behind base blocks c hc]
      · simp [behind, read, hclosing, readBlock_behind]
  | inLeaf c blocks leaf opening body =>
      by_cases hclosing : t.kind = leaf.closing <;> simp [behind, read, hclosing]
  | inList c blocks opening ordered items =>
      by_cases hclosing : t.kind = .listClose ordered
      · simp [behind, read, hclosing]
      · by_cases hitem : t.kind = .itemOpen <;>
          simp [behind, read, hclosing, hitem, Context.behind]
  | inTable c blocks opening parts => exact readTable_behind base blocks c opening parts t
  | inCell c blocks opening parts header body =>
      by_cases hclosing : t.kind = .cellClose header <;> simp [behind, read, hclosing]

theorem readAll_behind (base : List Block) (s : State) (tokens : List Token) :
    (s.behind base).readAll tokens = (s.readAll tokens).behind base := by
  induction tokens generalizing s with
  | nil => rfl
  | cons t rest ih => rw [readAll_cons, readAll_cons, read_behind, ih]

theorem finish_behind (base : List Block) (s : State) :
    (s.behind base).finish = base.reverse ++ s.finish := by
  cases s <;> simp [behind, finish, ← Context.finish_behind]

end State

/-- The blocks that were read before a place at the top stand before the outline of the tokens that
follow. -/
theorem finish_readAll_top (blocks : List Block) (rest : List Token) :
    ((State.atBlock .top blocks).readAll rest).finish = blocks.reverse ++ ofTokens rest := by
  have hstart : State.atBlock .top blocks = (State.atBlock .top []).behind blocks := rfl
  rw [hstart, State.readAll_behind, State.finish_behind, ofTokens]

/-- The outline of the tokens of trees and of what follows them. -/
theorem ofTokens_flattenAll_append (trees : List BlockTree) (rest : List Token) :
    ofTokens (BlockTree.flattenAll trees ++ rest) = BlockTree.outlines trees ++ ofTokens rest := by
  rw [ofTokens, State.readAll_flattenAll, finish_readAll_top, List.append_nil, List.reverse_reverse]

end MarkdownAdf.Outline
