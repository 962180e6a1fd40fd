import MarkdownAdf.Proofs.Document.Conversion
import MarkdownAdf.Proofs.Outline.Text
import MarkdownAdf.Proofs.Resolve.Tree

/-!
# Conversion keeps the text

A conversion that warns of no dropped blocks gives a document with the text that its tokens show:
all of it, once and in the same order.
-/

namespace MarkdownAdf

/-- The issues with which blocks are dropped. -/
def Issue.drops : Issue → Bool
  | .itemBlocksDropped | .taskBlocksDropped => true
  | _ => false

namespace Outcome

variable {α β γ : Type}

/-- No warning among the events tells of dropped blocks. -/
def Lossless (es : List Event) : Prop := ∀ n ∈ notices es, n.issue.drops = false

theorem lossless_append {as bs : List Event} :
    Lossless (as ++ bs) ↔ Lossless as ∧ Lossless bs := by
  rw [Lossless, notices_append, List.forall_mem_append, Lossless, Lossless]

/-- What holds of the result of an outcome that dropped nothing. -/
def Keeps (x : Outcome α) (P : α → Prop) : Prop := x.Ensures fun es a => Lossless es → P a

namespace Keeps

variable {P : α → Prop} {Q : β → Prop}

theorem pure {a : α} (h : P a) : Keeps (pure a) P := Ensures.pure fun _ => h

theorem bind {x : Outcome α} {f : α → Outcome β} (hx : x.Keeps P)
    (hf : ∀ a, P a → (f a).Keeps Q) : Keeps (x >>= f) Q := by
  refine Ensures.bind hx fun es a ha b hb hlossless => ?_
  rw [lossless_append] at hlossless
  exact hf a (ha hlossless.1) b hb hlossless.2

theorem ite {c : Prop} [Decidable c] {x y : Outcome α} (hx : c → x.Keeps P)
    (hy : ¬c → y.Keeps P) : Keeps (if c then x else y) P := Ensures.ite hx hy

/-- What is noted in passing has no part in the result. -/
theorem then_of_note {x : Outcome Unit} {y : Outcome α} (hy : y.Keeps P) :
    Keeps (x >>= fun _ => y) P :=
  bind (P := fun _ => True) (fun _ _ _ => trivial) fun _ _ => hy

/-- A warning of dropped blocks leaves nothing to show. -/
theorem then_of_drops {n : Notice} {y : Outcome α} (h : n.issue.drops = true) :
    Keeps (warn n >>= fun _ => y) P := by
  refine bind (P := fun _ => False) (fun _ _ hlossless => ?_) fun _ hfalse => hfalse.elim
  have hpass := hlossless n List.mem_cons_self
  rw [h] at hpass
  cases hpass

theorem mapM {f : α → Outcome β} {g : β → List γ} {h : α → List γ}
    (hf : ∀ a, (f a).Keeps fun b => g b = h a) (as : List α) :
    (as.mapM f).Keeps fun bs => bs.flatMap g = as.flatMap h := by
  induction as with
  | nil => exact .pure rfl
  | cons a as ih =>
      rw [List.mapM_cons]
      refine (hf a).bind fun b hb => ih.bind fun bs hbs => .pure ?_
      rw [List.flatMap_cons, List.flatMap_cons, hb, hbs]

end Keeps

end Outcome

/-! ### Leaves -/

namespace Inline

theorem chars_run (c : Cursor) (text : String) (inner : List Mark) :
    (c.run text inner).flatMap Node.ownChars = text.toList := by
  rw [Cursor.run]
  split
  · next hempty => rw [hempty]; rfl
  · exact List.append_nil _

theorem ownChars_nodes (style : Style) (c : Cursor) (t : Inline) :
    (c.nodes style t).flatMap Node.ownChars = t.shown style := by
  cases t with
  | text content => exact chars_run c content []
  | code content => exact chars_run c content [Mark.plain .code]
  | softBreak =>
      rw [Cursor.nodes, shown]
      split
      · rfl
      · exact chars_run c " " []
  | markup content =>
      cases hbox : Text.Checkbox.ofMarkup content with
      | absent => simp only [Cursor.nodes, shown, hbox, List.flatMap_nil]
      | box checked =>
          simp only [Cursor.nodes, shown, hbox]
          split
          · rfl
          · rw [chars_run]
            cases checked <;> rfl
  | image content src alt =>
      cases hsrc : nonempty? src with
      | none =>
          simp only [Cursor.nodes, shown, hsrc, chars_run]
          cases nonempty? (some content) <;> cases nonempty? alt <;> rfl
      | some url =>
          simp only [Cursor.nodes, shown, hsrc, chars_run]
          cases nonempty? (some content) <;> cases nonempty? alt <;> rfl
  | _ => rfl

theorem ownChars_pieces (style : Style) (c : Cursor) (tokens : List Inline) :
    (pieces style c tokens).flatMap Node.ownChars = shownAll style tokens := by
  induction tokens generalizing c with
  | nil => rfl
  | cons t tokens ih => rw [pieces, List.flatMap_append, ownChars_nodes, ih]; rfl

theorem ownChars_resolve (style : Style) (tokens : List Inline) :
    (resolve style tokens).nodes.flatMap Node.ownChars = shownAll style tokens := by
  rw [resolve, Node.ownChars_mergeTexts, ownChars_pieces]

end Inline

theorem Token.source_toList (t : Token) : t.source.toList = t.codeShown := by
  have hlast : t.content.toList.getLast? = t.content.toList.reverse.head? := by simp
  have hinit : t.content.toList.dropLast = t.content.toList.reverse.tail.reverse := by simp
  rw [source, codeShown, hlast, hinit]
  cases t.content.toList.reverse with
  | nil => simp
  | cons c rest => by_cases h : c = '\n' <;> simp [h]

namespace Node

theorem chars_resolve (style : Inline.Style) (tokens : List Inline) :
    chars (Inline.resolve style tokens).nodes = Inline.shownAll style tokens := by
  rw [chars_inline (Inline.isInline_resolve style tokens), Inline.ownChars_resolve]

theorem chars_embolden {ns : List Node} (h : ∀ n ∈ ns, n.IsInline) :
    chars (embolden ns) = chars ns := by
  rw [chars_inline (isInline_embolden h), ownChars_embolden, chars_inline h]

/-- Trimming the content of a task removes no more than what its text is said to be without. -/
theorem chars_trimFirst_resolve (style : Inline.Style) (tokens : List Inline) :
    chars (trimFirst (Inline.resolve { style with stripCheckboxes := true } tokens).nodes) =
      Inline.taskShown style tokens := by
  rw [chars_inline (isInline_trimFirst (Inline.isInline_resolve _ tokens)), ownChars_trimFirst,
    Inline.ownChars_resolve, Inline.resolve, leadingChars_mergeTexts, Inline.taskShown]

theorem chars_rowOfCells (inHead : Bool) (cells : List (Bool × List Node)) :
    chars [rowOfCells inHead cells] = cells.flatMap fun c => chars c.2 := by
  have hkind : (rowOfCells inHead cells).kind ≠ .text := nofun
  rw [chars_of_kind_ne hkind]
  exact (chars_map _ cells).trans
    (congrArg (List.flatMap · cells) (funext fun c => chars_eq_of_texts (texts_cell _ c.2)))

end Node

namespace Site

open Outcome Node

variable (s : Site)

theorem keeps_inline (body : Option Token) :
    (s.inline body).Keeps fun ns =>
      (∀ n ∈ ns, n.IsInline) ∧ chars ns = Token.bodyShown s.style body :=
  Keeps.bind
    (P := fun content => content = Inline.resolve s.style ((body.map Token.inlines).getD []))
    (fun _ h _ => (Except.ok.inj h).symm)
    fun _ h => .pure (h ▸ ⟨Inline.isInline_resolve _ _, chars_resolve _ _⟩)

theorem keeps_taskContent (body : Option Token) :
    (s.taskContent body).Keeps fun content =>
      chars content.1 = Token.taskBodyShown s.style body :=
  Keeps.bind
    (P := fun content => content = Inline.resolve s.taskStyle ((body.map Token.inlines).getD []))
    (fun _ h _ => (Except.ok.inj h).symm)
    fun _ h => .pure (h ▸ chars_trimFirst_resolve _ _)

theorem keeps_paragraph (body : Option Token) :
    (s.paragraph body).Keeps fun ns => chars ns = Token.bodyShown s.style body :=
  (s.keeps_inline body).bind fun content h => .pure ((chars_paragraph content).trans h.2)

/-- A heading in bold has the text of the heading. -/
theorem keeps_heading (opening : Token) (body : Option Token) :
    (s.heading opening body).Keeps fun ns => chars ns = Token.bodyShown s.style body := by
  refine (s.keeps_inline body).bind fun content h => ?_
  cases s.profile.headingIssue? opening.headingLevel with
  | none => exact .pure ((chars_of_kind_ne (n := Node.heading _ content) nofun).trans h.2)
  | some issue =>
      refine .then_of_note (.pure ?_)
      rw [chars_paragraph, chars_embolden h.1, h.2]

theorem chars_code (t : Token) : chars (s.code t) = t.codeShown := by
  rw [code, chars_codeBlock, Token.source_toList]

theorem keeps_rule (t : Token) : (s.rule t).Keeps fun ns => chars ns = [] :=
  .then_of_note (.pure rfl)

/-! ### Containers -/

/-- A quote keeps the text of its blocks whether or not it is unwrapped. -/
theorem keeps_quote (opening : Token) {inner : List Node} {cs : List Char}
    (h : chars inner = cs) : (s.quote opening inner).Keeps fun ns => chars ns = cs := by
  have hcontent : chars (orParagraph inner) = cs :=
    (chars_eq_of_texts (texts_orParagraph inner)).trans h
  refine .ite (fun _ => .then_of_note (.pure hcontent)) fun _ => .pure ?_
  exact (chars_of_kind_ne (n := blockquote (orParagraph inner)) nofun).trans hcontent

theorem keeps_list (opening : Token) (ordered : Bool) {items : List (Bool × Node)}
    {cs : List Char} (h : chars (items.map Prod.snd) = cs) :
    (Site.list opening ordered items).Keeps fun ns => chars ns = cs := by
  have hruns := (chars_eq_of_texts (texts_flagRuns ordered items)).trans h
  exact .ite (fun _ => .then_of_note (.pure hruns)) fun _ => .pure hruns

theorem keeps_listItem (opening : Token) {blocks : List Node} {cs : List Char}
    (h : chars blocks = cs) : (Site.listItem opening blocks).Keeps fun n => chars [n] = cs := by
  refine .ite (fun _ => .then_of_drops rfl) fun hlength => .pure ?_
  have hkept : blocks.filter (fun n => n.kind.fitsListItem) = blocks :=
    List.filter_sublist.eq_of_length (Decidable.not_not.mp hlength)
  rw [hkept, chars_of_kind_ne (n := Node.listItem (orParagraph blocks)) nofun]
  exact (chars_eq_of_texts (texts_orParagraph blocks)).trans h

/-- A task that dropped nothing had no other nodes to drop. -/
theorem keeps_taskItem (opening : Token) {content : List Node × Bool} {extra : List Node}
    {cs ds : List Char} (h : chars content.1 = cs) (hextra : chars extra = ds) :
    (Site.taskItem opening content extra).Keeps fun n => chars [n] = cs ++ ds := by
  refine .ite (fun _ => .then_of_drops rfl) fun hempty => .pure ?_
  have hnil : extra = [] := by simpa using hempty
  rw [← hextra, hnil, chars_nil, List.append_nil, ← h]
  exact chars_of_kind_ne (n := Node.taskItem content.1 content.2) nofun

theorem keeps_rowTree (r : RowTree) :
    (s.rowTree r).Keeps fun cells => (cells.flatMap fun c => chars c.2) = r.shown s.style := by
  have hcell (c : CellTree) : Outcome.Keeps (do return (c.header, ← s.inline c.body))
      fun cell => chars cell.2 = Token.bodyShown s.style c.body :=
    (s.keeps_inline c.body).bind fun _ h => .pure h.2
  rw [rowTree, RowTree.shown]
  exact Keeps.mapM hcell r.cells

theorem keeps_tableTree (ends : Delimiters) (head : SectionTree) (body : Option SectionTree) :
    (s.tableTree ends head body).Keeps fun ns =>
      chars ns = (BlockTree.table ends head body).shown s.style := by
  refine (Keeps.mapM s.keeps_rowTree head.rows).bind fun headRows hhead => ?_
  refine (Keeps.mapM s.keeps_rowTree _).bind fun bodyRows hbody => ?_
  have hrows (inHead : Bool) (rows : List (List (Bool × List Node))) :
      chars (rows.map (rowOfCells inHead)) =
        rows.flatMap fun cells => cells.flatMap fun c => chars c.2 := by
    rw [chars_map, funext (chars_rowOfCells inHead)]
  have hsection : ((body.map SectionTree.rows).getD []).flatMap (RowTree.shown s.style) =
      (body.map (SectionTree.shown s.style)).getD [] := by
    cases body <;> rfl
  have htable : chars
      [Node.table (headRows.map (rowOfCells true) ++ bodyRows.map (rowOfCells false))] =
        (BlockTree.table ends head body).shown s.style := by
    rw [chars_of_kind_ne (n := Node.table _) nofun]
    exact (chars_append _ _).trans (by
      rw [hrows, hrows, hhead, hbody, hsection, BlockTree.shown, SectionTree.shown])
  exact .ite (fun _ => .then_of_note (.pure htable)) fun _ => .pure htable

/-! ### Trees -/

mutual

theorem keeps_tree : ∀ b : BlockTree, (s.tree b).Keeps fun ns => chars ns = b.shown s.style
  | .paragraph _ body => s.keeps_paragraph body
  | .heading ends body => s.keeps_heading ends.opening body
  | .loose body => s.keeps_paragraph (some body)
  | .fence t | .codeBlock t => .pure (s.chars_code t)
  | .rule t => s.keeps_rule t
  | .quote ends children =>
    (keeps_trees children).bind fun _ h => s.keeps_quote ends.opening h
  | .list ends ordered is =>
    (keeps_itemTrees ordered is).bind fun _ h => Site.keeps_list ends.opening ordered h
  | .table ends head body => s.keeps_tableTree ends head body

theorem keeps_trees : ∀ bs : List BlockTree,
    (s.trees bs).Keeps fun ns => chars ns = BlockTree.shownAll s.style bs
  | [] => .pure rfl
  | b :: bs =>
    (keeps_tree b).bind fun _ hb => (keeps_trees bs).bind fun _ hbs => .pure (by
      rw [chars_append, hb, hbs, BlockTree.shownAll])

theorem keeps_itemTree (ordered : Bool) : ∀ i : ItemTree,
    (s.itemTree ordered i).Keeps fun item =>
      chars [item.2] = BlockTree.itemShown s.style ordered i
  | ⟨ends, children⟩ => by
    have hchildren := keeps_trees children
    unfold itemTree BlockTree.itemShown
    cases ItemTree.isTask ordered ⟨ends, children⟩ with
    | false =>
        exact hchildren.bind fun _ h =>
          (Site.keeps_listItem ends.opening h).bind fun _ h => .pure h
    | true =>
        cases children with
        | nil =>
            -- without a leading text all children are extra, and their text is the whole text
            exact hchildren.bind fun _ h =>
              (Site.keeps_taskItem ends.opening rfl h).bind fun _ h => .pure h
        | cons b rest =>
            have hrest := keeps_trees rest
            cases b with
            | paragraph _ body =>
                exact (s.keeps_taskContent body).bind fun _ hcontent =>
                  hrest.bind fun _ hextra =>
                    (Site.keeps_taskItem ends.opening hcontent hextra).bind fun _ h => .pure h
            | loose body =>
                exact (s.keeps_taskContent (some body)).bind fun _ hcontent =>
                  hrest.bind fun _ hextra =>
                    (Site.keeps_taskItem ends.opening hcontent hextra).bind fun _ h => .pure h
            | _ =>
                exact hchildren.bind fun _ h =>
                  (Site.keeps_taskItem ends.opening rfl h).bind fun _ h => .pure h

theorem keeps_itemTrees (ordered : Bool) : ∀ is : List ItemTree,
    (s.itemTrees ordered is).Keeps fun items =>
      chars (items.map Prod.snd) = BlockTree.itemsShown s.style ordered is
  | [] => .pure rfl
  | i :: is =>
    (keeps_itemTree ordered i).bind fun _ hi => (keeps_itemTrees ordered is).bind fun _ his =>
      .pure (by rw [List.map_cons, chars_cons, hi, his, BlockTree.itemsShown])

end

end Site

namespace Profile

/-- The text of a document is the text that its tokens show, when the log has no warning that blocks
of an item were dropped. -/
theorem convert_chars {p : Profile} {id : Nat → String}
    {tokenize : String → Except String (List Token)} {markdown : String} {c : Conversion}
    {forest : List BlockTree} (hmarkdown : Text.isBlankText markdown = false)
    (htokens : tokenize markdown = .ok (BlockTree.flattenAll forest))
    (h : (p.convert id tokenize (.str markdown)).result = .ok c)
    (hlog : ∀ w ∈ c.warnings, w.message ≠ Issue.itemBlocksDropped.message ∧
      w.message ≠ Issue.taskBlocksDropped.message) :
    c.document.chars =
      BlockTree.shownAll { preserveLineBreaks := p.preserveLineBreaks } forest := by
  obtain ⟨hblank, -⟩ | ⟨tokens, nodes, -, htokens', hnodes, rfl⟩ := convert_eq_ok h
  · rw [hmarkdown] at hblank
    cases hblank
  · obtain rfl := Except.ok.inj (htokens.symm.trans htokens')
    rw [Site.resolve_flattenAll] at hnodes hlog
    have hlossless : Outcome.Lossless ((Site.mk p (Text.lines markdown)).trees forest).events := by
      intro n hn
      have hmessage := hlog n.warning (List.mem_map_of_mem hn)
      cases hissue : n.issue <;> simp_all [Issue.drops, Notice.warning]
    rw [Document.chars_label]
    exact (Node.chars_eq_of_texts (Node.texts_orParagraph nodes)).trans
      ((Site.mk p (Text.lines markdown)).keeps_trees forest nodes hnodes hlossless)

/-- A heading, a list with a task and another item, and code, all in a quote. -/
def quotedList : BlockTree :=
  let ends : Delimiters := ⟨{ kind := .other "" }, { kind := .other "" }⟩
  let leaf (tokens : List Inline) : Option Token :=
    some { kind := .inline, children := some tokens }
  let task := [.markup "<input type='checkbox'>", .text "  call"]
  .quote ends
    [.heading ends (leaf [.text "Plan"]),
      .list ends false
        [⟨ends, [.paragraph ends (leaf task), .rule ends.opening]⟩,
          ⟨ends, [.paragraph ends (leaf [.text "then", .softBreak, .code "run"])]⟩],
      .fence { kind := .fence, content := "ls\n" }]

theorem convert_quotedList_chars :
    ∃ c, (convert { preset := .comment } toString
        (fun _ => .ok (BlockTree.flattenAll [quotedList])) (.str "> # Plan")).result = .ok c ∧
      c.document.chars = "Plancallthen runls".toList :=
  ⟨_, rfl, @convert_chars { preset := .comment } toString
    (fun _ => .ok (BlockTree.flattenAll [quotedList])) "> # Plan" _ [quotedList] rfl rfl rfl
    (by decide)⟩

end Profile

end MarkdownAdf
