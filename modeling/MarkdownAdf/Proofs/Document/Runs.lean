import MarkdownAdf.Proofs.Document.Conversion
import MarkdownAdf.Proofs.Resolve.Marks
import MarkdownAdf.Proofs.Resolve.Table

/-!
# Runs of text in documents

Every list of children in a document is canonical: neighbouring texts differ in their marks, no text
carries two marks of one type, and no text is empty. The one exception is the empty text in bold
that stands for a heading without inline content where headings are put in bold.
-/

namespace MarkdownAdf

/-! ### Headings of an outline -/

mutual

/-- The headings of a block and of the blocks in it, each with its opening token and its body. -/
def Block.headings : Block → List (Token × Option Token)
  | .heading opening body => [(opening, body)]
  | .quote _ children => headingsAll children
  | .list _ _ items => headingsItems items
  | .paragraph .. | .loose _ | .code _ | .rule _ | .table .. | .stray _ => []

def Block.headingsAll : List Block → List (Token × Option Token)
  | [] => []
  | b :: rest => b.headings ++ headingsAll rest

def Block.headingsItem : Item → List (Token × Option Token)
  | ⟨_, _, children⟩ => headingsAll children

def Block.headingsItems : List Item → List (Token × Option Token)
  | [] => []
  | i :: rest => headingsItem i ++ headingsItems rest

end

/-- Whether a heading is put in bold and has no inline content. -/
def Site.isEmptied (s : Site) (heading : Token × Option Token) : Bool :=
  (s.profile.headingIssue? heading.1.headingLevel).isSome &&
    (Inline.resolve s.style ((heading.2.map Token.inlines).getD [])).nodes.isEmpty

/-- How many headings of blocks are put in bold without inline content. -/
def Site.emptied (s : Site) (bs : List Block) : Nat := (Block.headingsAll bs).countP s.isEmptied

namespace Node

def isEmptyText (n : Node) : Bool := n.isText && n.ownText == ""

/-- A paragraph that holds one node, an empty text in bold. -/
def IsEmptyBold (n : Node) : Prop :=
  n.kind = .paragraph ∧ ∃ m : Node, n.content = [m] ∧ m.isText = true ∧ m.text = some "" ∧
    m.marks = [Mark.plain .strong]

/-- The children of a node are in normal form. -/
def HoldsRuns (n : Node) : Prop := Canonical n.content ∨ n.IsEmptyBold

/-! ### Numbering -/

/-- A node without attributes and content. -/
def ofFace (face : String × Option String × List Mark) : Node :=
  { type := face.1, text := face.2.1, marks := face.2.2 }

theorem canonical_iff_face (ns : List Node) :
    Canonical ns ↔ Canonical ((ns.map face).map ofFace) := by
  have hall {P : Node → Prop} (hP : ∀ n, P (ofFace n.face) ↔ P n) :
      (∀ n ∈ ns, P n) ↔ ∀ n ∈ (ns.map face).map ofFace, P n := by
    simp [hP]
  have hchain : Separated ns ↔ Separated ((ns.map face).map ofFace) := by
    rw [Separated, Separated, List.isChain_map, List.isChain_map]
    rfl
  constructor
  · rintro ⟨hseparated, hdistinct, hnonempty⟩
    exact ⟨hchain.mp hseparated, (hall fun _ => Iff.rfl).mp hdistinct,
      (hall fun _ => Iff.rfl).mp hnonempty⟩
  · rintro ⟨hseparated, hdistinct, hnonempty⟩
    exact ⟨hchain.mpr hseparated, (hall fun _ => Iff.rfl).mpr hdistinct,
      (hall fun _ => Iff.rfl).mpr hnonempty⟩

theorem canonical_of_face {as bs : List Node} (h : Canonical as)
    (hface : as.map face = bs.map face) :
    Canonical bs := by
  rw [canonical_iff_face, ← hface, ← canonical_iff_face]
  exact h

theorem HoldsRuns.relabel {n m : Node} (hn : n.HoldsRuns) (h : n.Relabels m) : m.HoldsRuns := by
  rcases hn with hcanonical | ⟨hkind, a, hcontent, htext, hempty, hmarks⟩
  · exact .inl (canonical_of_face hcanonical h.content)
  · right
    have hsingle := h.content
    rw [hcontent, List.map_singleton, eq_comm, List.map_eq_singleton_iff] at hsingle
    obtain ⟨b, hb, hface⟩ := hsingle
    simp only [face, Prod.mk.injEq] at hface
    obtain ⟨htype, htext', hmarks'⟩ := hface
    have hm : m.kind = n.kind := congrArg NodeKind.ofName (congrArg Prod.fst h.face).symm
    refine ⟨hm.trans hkind, b, hb, ?_, htext'.trans hempty, hmarks'.trans hmarks⟩
    rwa [isText, kind, htype]

/-! ### Blocks with normal runs -/

theorem canonical_of_blocks {ns : List Node} (h : ∀ n ∈ ns, n.isText = false) : Canonical ns := by
  have hchain : Separated ns := by
    induction ns with
    | nil => exact .nil
    | cons n ns ih =>
        rw [List.forall_mem_cons] at h
        exact List.isChain_cons.mpr ⟨fun m _ => by simp [joinable, h.1], ih h.2⟩
  exact ⟨hchain, fun n hn htext => by simp [h n hn] at htext,
    fun n hn htext => by simp [h n hn] at htext⟩

/-- Blocks whose runs are normal all through, with at most `k` empty texts among them. -/
structure AreRuns (k : Nat) (ns : List Node) : Prop where
  blocks : ∀ n ∈ ns, n.isText = false
  runs : ∀ n ∈ forest ns, n.HoldsRuns
  empty : (texts ns).countP isEmptyText ≤ k

namespace AreRuns

variable {j k : Nat} {as bs ns : List Node}

theorem nil : AreRuns 0 [] := ⟨List.forall_mem_nil _, List.forall_mem_nil _, Nat.le_refl 0⟩

theorem append (ha : AreRuns j as) (hb : AreRuns k bs) : AreRuns (j + k) (as ++ bs) where
  blocks := List.forall_mem_append.mpr ⟨ha.blocks, hb.blocks⟩
  runs := by
    rw [forest_append]
    exact List.forall_mem_append.mpr ⟨ha.runs, hb.runs⟩
  empty := by
    rw [texts_append, List.countP_append]
    exact Nat.add_le_add ha.empty hb.empty

theorem mono (h : AreRuns j ns) (hjk : j ≤ k) : AreRuns k ns :=
  ⟨h.blocks, h.runs, Nat.le_trans h.empty hjk⟩

/-- A node around blocks. -/
theorem container {n : Node} (h : AreRuns k n.content) (hn : n.isText = false) :
    AreRuns k [n] where
  blocks := List.forall_mem_singleton.mpr hn
  runs := by
    rw [forest_singleton]
    exact List.forall_mem_cons.mpr ⟨.inl (canonical_of_blocks h.blocks), h.runs⟩
  empty := by
    have hkind : n.kind ≠ .text := by simpa [isText] using hn
    rw [texts_of_kind_ne hkind]
    exact h.empty

/-- A node around inline content. -/
theorem leaf {n : Node} (hn : n.isText = false) (hinline : ∀ m ∈ n.content, m.IsInline)
    (h : Canonical n.content) : AreRuns 0 [n] where
  blocks := List.forall_mem_singleton.mpr hn
  runs := by
    rw [forest_singleton, forest_inline hinline]
    refine List.forall_mem_cons.mpr ⟨.inl h, fun m hm => .inl ?_⟩
    have hcontent : m.content = [] := by cases hinline m hm <;> rfl
    exact hcontent ▸ canonical_nil
  empty := by
    have hkind : n.kind ≠ .text := by simpa [isText] using hn
    rw [texts_of_kind_ne hkind, texts, forest_inline hinline, List.countP_filter, Nat.le_zero,
      List.countP_eq_zero]
    intro m hm hempty
    have htext : m.isText = true ∧ m.ownText = "" := by
      simpa [isEmptyText] using Bool.and_eq_true_iff.mp hempty |>.1
    exact h.nonempty m hm htext.1 htext.2

theorem emptyBold : AreRuns 1 [paragraph [run "" [Mark.plain .strong]]] where
  blocks := List.forall_mem_singleton.mpr rfl
  runs := by
    have hbold : (paragraph [run "" [Mark.plain .strong]]).IsEmptyBold :=
      ⟨rfl, _, rfl, rfl, rfl, rfl⟩
    rw [forest_singleton]
    exact List.forall_mem_cons.mpr ⟨.inr hbold, List.forall_mem_singleton.mpr (.inl canonical_nil)⟩
  empty := by decide

theorem of_sublist (h : AreRuns k bs) (hsub : as.Sublist bs) : AreRuns k as := by
  have hforest : (forest as).Sublist (forest bs) := by
    clear h
    induction hsub with
    | slnil => exact .slnil
    | cons b _ ih => rw [forest]; exact List.sublist_append_of_sublist_right ih
    | cons_cons b _ ih => rw [forest, forest]; exact List.Sublist.append_left ih _
  refine ⟨fun n hn => h.blocks n (hsub.subset hn), fun n hn => h.runs n (hforest.subset hn), ?_⟩
  exact Nat.le_trans (hforest.filter isText).countP_le h.empty

theorem orParagraph (h : AreRuns k ns) : AreRuns k (orParagraph ns) := by
  rw [Node.orParagraph]
  split
  · exact (leaf (n := paragraph) rfl (List.forall_mem_nil _) canonical_nil).mono (Nat.zero_le k)
  · exact h

theorem map {α : Type} {f : α → Node} {l : List α} (h : ∀ a ∈ l, AreRuns 0 [f a]) :
    AreRuns 0 (l.map f) := by
  induction l with
  | nil => exact nil
  | cons a l ih =>
      rw [List.forall_mem_cons] at h
      exact h.1.append (ih h.2)

theorem tableOfRows {rows : List (List (Bool × List Node))}
    (h : ∀ cells ∈ rows, ∀ c ∈ cells, (∀ n ∈ c.2, n.IsInline) ∧ Canonical c.2) :
    AreRuns 0 [tableOfRows rows] := by
  have hcell (header : Bool) (content : List Node) (hc : (∀ n ∈ content, n.IsInline) ∧
      Canonical content) : AreRuns 0 [cell header content] := by
    refine container ?_ (by cases header <;> rfl)
    rw [content_cell]
    exact leaf rfl hc.1 hc.2
  refine container (map fun cells hcells => ?_) rfl
  exact container (map fun c hc => hcell c.1 c.2 (h cells hcells c hc)) rfl

/-- The lists of the runs of items. -/
theorem listOf {items : List (Bool × Node)} (ordered : Bool)
    (h : AreRuns k (items.map Prod.snd)) : AreRuns k ((flagRuns items).map (listOf ordered)) := by
  have hblock (run : Bool × List Node) : (Node.listOf ordered run).isText = false := by
    rw [Node.listOf]
    split
    · rfl
    · split <;> rfl
  have hmem {run : Bool × List Node} (hrun : run ∈ flagRuns items) :
      ∀ n ∈ run.2, n ∈ items.map Prod.snd := fun n hn =>
    List.mem_map.mpr ⟨_, mem_of_mem_flagRuns hrun hn, rfl⟩
  refine ⟨?_, ?_, ?_⟩
  · intro n hn
    obtain ⟨run, -, rfl⟩ := List.mem_map.mp hn
    exact hblock run
  · rw [forall_mem_forest]
    intro n hn
    obtain ⟨run, hrun, rfl⟩ := List.mem_map.mp hn
    rw [HoldsRuns, content_listOf]
    have hall := forall_mem_forest.mp h.runs
    refine ⟨.inl (canonical_of_blocks fun n hn => h.blocks n (hmem hrun n hn)), ?_⟩
    exact forall_mem_forest.mpr fun n hn => hall n (hmem hrun n hn)
  · rw [texts_flagRuns]
    exact h.empty

end AreRuns

end Node

/-! ### Steps of a conversion -/

namespace Site

open Outcome Node

variable (s : Site)

/-- Inline content is canonical, and there is none where the tokens give none. -/
theorem ensures_canonical (body : Option Token) :
    (s.inline body).Ensures fun _ ns => (∀ n ∈ ns, n.IsInline) ∧ Canonical ns ∧
      ns = (Inline.resolve s.style ((body.map Token.inlines).getD [])).nodes :=
  Ensures.bind
    (P := fun _ content => content = Inline.resolve s.style ((body.map Token.inlines).getD []))
    (fun _ h => (Except.ok.inj h).symm)
    fun _ _ h => .pure ⟨h ▸ Inline.isInline_resolve _ _, h ▸ Inline.canonical_resolve _ _, h ▸ rfl⟩

theorem runs_leadContent (lead : Option (Option Token)) :
    (s.leadContent lead).Ensures fun _ content =>
      (∀ n ∈ content.1, n.IsInline) ∧ Canonical content.1 := by
  cases lead with
  | none => exact .pure ⟨List.forall_mem_nil _, canonical_nil⟩
  | some body =>
      refine Ensures.bind (P := fun _ content =>
        (∀ n ∈ content.nodes, n.IsInline) ∧ Canonical content.nodes) ?_ fun _ _ h => .pure ?_
      · intro content h
        rw [← Except.ok.inj h]
        exact ⟨Inline.isInline_resolve _ _, Inline.canonical_resolve _ _⟩
      · exact ⟨isInline_trimFirst h.1, h.2.trimFirst⟩

theorem runs_paragraph (body : Option Token) :
    (s.paragraph body).Ensures fun _ ns => AreRuns 0 ns :=
  .bind (s.ensures_canonical body) fun _ _ h => .pure (.leaf rfl h.1 h.2.1)

/-- A heading gives an empty text only when it is put in bold without content. -/
theorem runs_heading (opening : Token) (body : Option Token) :
    (s.heading opening body).Ensures fun _ ns =>
      AreRuns (s.emptied [.heading opening body]) ns := by
  refine .bind (s.ensures_canonical body) fun _ content h => ?_
  cases hissue : s.profile.headingIssue? opening.headingLevel with
  | none =>
      have hleaf : AreRuns 0 [Node.heading opening.headingLevel content] :=
        .leaf rfl h.1 h.2.1
      exact .pure (hleaf.mono (Nat.zero_le _))
  | some issue =>
      refine .bind (.report _ _) fun _ _ _ => .pure ?_
      cases content with
      | nil =>
          have hemptied : s.emptied [.heading opening body] = 1 := by
            simp [emptied, Block.headingsAll, Block.headings, isEmptied, hissue, ← h.2.2]
          rw [hemptied]
          exact .emptyBold
      | cons n ns =>
          have hbold : AreRuns 0 [Node.paragraph (embolden (n :: ns))] :=
            .leaf rfl (isInline_embolden h.1) (h.2.1.embolden (List.cons_ne_nil n ns))
          exact hbold.mono (Nat.zero_le _)

theorem runs_code (t : Token) : AreRuns 0 (s.code t) := by
  rw [code, codeBlock]
  split
  · exact .leaf rfl (List.forall_mem_nil _) canonical_nil
  · next hsource =>
    refine .leaf rfl (List.forall_mem_singleton.mpr (.run _ (List.forall_mem_nil _))) ?_
    exact ⟨.singleton _, List.forall_mem_singleton.mpr fun _ => List.nodup_nil,
      List.forall_mem_singleton.mpr fun _ => hsource⟩

theorem runs_rule (t : Token) : (s.rule t).Ensures fun _ ns => AreRuns 0 ns :=
  .bind (.report _ _) fun _ _ _ => .pure .nil

theorem runs_quote (opening : Token) {inner : List Node} {k : Nat} (h : AreRuns k inner) :
    (s.quote opening inner).Ensures fun _ ns => AreRuns k ns :=
  .ite_note h.orParagraph (.container h.orParagraph rfl)

theorem runs_table (opening : Token) (parts : List (TablePart (Option Token))) :
    (s.table opening parts).Ensures fun _ ns => AreRuns 0 ns := by
  have hinline (body : Option Token) : (s.inline body).Ensures fun _ ns =>
      (∀ n ∈ ns, n.IsInline) ∧ Canonical ns := fun ns hns =>
    have h := s.ensures_canonical body ns hns
    ⟨h.1, h.2.1⟩
  refine .bind (s.ensures_tableParts hinline parts) fun _ cells hcells => ?_
  have htable : AreRuns 0 [tableOfRows (TablePart.rows cells)] :=
    .tableOfRows (TablePart.forall_mem_rows hcells)
  exact .ite_note htable htable

theorem runs_listItem (opening : Token) {blocks : List Node} {k : Nat} (h : AreRuns k blocks) :
    (Site.listItem opening blocks).Ensures fun _ n => AreRuns k [n] := by
  have hitem : AreRuns k
      [Node.listItem (orParagraph (blocks.filter fun n => n.kind.fitsListItem))] :=
    .container (h.of_sublist List.filter_sublist).orParagraph rfl
  exact .ite_note hitem hitem

theorem runs_taskItem (opening : Token) {content : List Node × Bool} (extra : List Node)
    (h : (∀ n ∈ content.1, n.IsInline) ∧ Canonical content.1) :
    (Site.taskItem opening content extra).Ensures fun _ n => AreRuns 0 [n] := by
  have hitem : AreRuns 0 [Node.taskItem content.1 content.2] := .leaf rfl h.1 h.2
  exact .ite_note hitem hitem

theorem runs_list (opening : Token) (ordered : Bool) {items : List (Bool × Node)} {k : Nat}
    (h : AreRuns k (items.map Prod.snd)) :
    (Site.list opening ordered items).Ensures fun _ ns => AreRuns k ns :=
  .ite_note (.listOf ordered h) (.listOf ordered h)

/-! ### Whole outlines -/

theorem emptied_cons (b : Block) (bs : List Block) :
    s.emptied (b :: bs) = s.emptied [b] + s.emptied bs := by
  simp [emptied, Block.headingsAll, List.countP_append]

/-- How many headings of items are put in bold without inline content. -/
def emptiedItems (items : List Item) : Nat := (Block.headingsItems items).countP s.isEmptied

mutual

theorem runs_block : ∀ b : Block, (s.block b).Ensures fun _ ns => AreRuns (s.emptied [b]) ns
  | .paragraph _ body => s.runs_paragraph body
  | .heading opening body => s.runs_heading opening body
  | .loose body => s.runs_paragraph (some body)
  | .code t => .pure (s.runs_code t)
  | .rule t => s.runs_rule t
  | .quote opening children => by
    have hemptied : s.emptied [.quote opening children] = s.emptied children := by
      simp [emptied, Block.headingsAll, Block.headings]
    rw [hemptied]
    exact .bind (runs_blocks children) fun _ _ h => s.runs_quote opening h
  | .list opening ordered is => by
    have hemptied : s.emptied [.list opening ordered is] = s.emptiedItems is := by
      simp [emptied, emptiedItems, Block.headingsAll, Block.headings]
    rw [hemptied]
    exact .bind (runs_items is) fun _ _ h => Site.runs_list opening ordered h
  | .table opening parts => s.runs_table opening parts
  | .stray _ => .bind (.note _) fun _ _ _ => .pure .nil

theorem runs_blocks : ∀ bs : List Block,
    (s.blocks bs).Ensures fun _ ns => AreRuns (s.emptied bs) ns
  | [] => .pure .nil
  | b :: bs => by
    rw [emptied_cons]
    exact .bind (runs_block b) fun _ _ hb => .bind (runs_blocks bs) fun _ _ hbs =>
      .pure (hb.append hbs)

theorem runs_item : ∀ i : Item,
    (s.item i).Ensures fun _ item => AreRuns (s.emptiedItems [i]) [item.2]
  | ⟨opening, false, children⟩ => by
    have hemptied : s.emptiedItems [⟨opening, false, children⟩] = s.emptied children := by
      simp [emptied, emptiedItems, Block.headingsItems, Block.headingsItem]
    rw [hemptied]
    exact .bind (runs_blocks children) fun _ _ h =>
      .bind (Site.runs_listItem opening h) fun _ _ h => .pure h
  | ⟨opening, true, children⟩ => by
    rw [item_task]
    -- the other children are dropped, whatever they are
    exact .bind (s.runs_leadContent _) fun _ _ hcontent =>
      .bind (P := fun _ _ => True) (fun _ _ => trivial) fun _ _ _ =>
        .bind (Site.runs_taskItem opening _ hcontent) fun _ _ h => .pure (h.mono (Nat.zero_le _))

theorem runs_items : ∀ is : List Item,
    (s.items is).Ensures fun _ items => AreRuns (s.emptiedItems is) (items.map Prod.snd)
  | [] => .pure .nil
  | i :: is => by
    have hemptied : s.emptiedItems (i :: is) = s.emptiedItems [i] + s.emptiedItems is := by
      simp [emptiedItems, Block.headingsItems, List.countP_append]
    rw [hemptied]
    exact .bind (runs_item i) fun _ _ hi => .bind (runs_items is) fun _ _ his =>
      .pure (hi.append his)

end

end Site

namespace Profile

/-- In a document that a conversion returns, every list of children is canonical, but for paragraphs
that hold one empty text in bold; of empty texts there are no more than headings that are put in
bold without inline content. -/
theorem convert_runs {p : Profile} {id : Nat → String}
    {tokenize : String → Except String (List Token)} {markdown : String} {c : Conversion}
    (h : (p.convert id tokenize (.str markdown)).result = .ok c) :
    Node.Canonical c.document.content ∧ (∀ n ∈ c.document.nodes, n.HoldsRuns) ∧
      ∀ tokens, tokenize markdown = .ok tokens →
        c.document.nodes.countP Node.isEmptyText ≤
          (Site.mk p (Text.lines markdown)).emptied (Outline.ofTokens tokens) := by
  have hof {ns : List Node} {k : Nat} (hns : Node.AreRuns k ns) :
      Node.Canonical (Document.label id { content := ns }).content ∧
        (∀ n ∈ (Document.label id { content := ns }).nodes, n.HoldsRuns) ∧
          (Document.label id { content := ns }).nodes.countP Node.isEmptyText ≤ k := by
    refine ⟨?_, fun m hm => ?_, ?_⟩
    · exact Node.canonical_of_face (Node.canonical_of_blocks hns.blocks)
        (Node.labelAll_map_face id 0 ns).symm
    · obtain ⟨n, hn, hnm⟩ := Node.exists_relabels_of_mem_forest id ns 0 m hm
      exact (hns.runs n hn).relabel hnm
    · have hfaces := Node.forest_labelAll_map_face id ns 0
      have hcount (ms : List Node) : ms.countP Node.isEmptyText =
          (ms.map Node.face).countP fun face => (Node.ofFace face).isEmptyText := by
        rw [List.countP_map]
        rfl
      have htexts : (Node.forest ns).countP Node.isEmptyText =
          (Node.texts ns).countP Node.isEmptyText := by
        rw [Node.texts, List.countP_filter]
        refine List.countP_congr fun n _ => ?_
        cases hn : n.isText <;> simp [Node.isEmptyText, hn]
      rw [hcount, show (Document.label id { content := ns }).nodes.map Node.face = _ from hfaces,
        ← hcount, htexts]
      exact hns.empty
  obtain ⟨-, rfl⟩ | ⟨tokens, nodes, -, htokens, hnodes, rfl⟩ := convert_eq_ok h
  · have hblank : Node.AreRuns 0 [Node.paragraph] :=
      .leaf rfl (List.forall_mem_nil _) Node.canonical_nil
    obtain ⟨hcontent, hruns, hempty⟩ := hof hblank
    exact ⟨hcontent, hruns, fun _ _ => Nat.le_trans hempty (Nat.zero_le _)⟩
  · have hblocks := (Site.mk p (Text.lines markdown)).runs_blocks (Outline.ofTokens tokens)
    obtain ⟨hcontent, hruns, hempty⟩ := hof (hblocks nodes hnodes).orParagraph
    refine ⟨hcontent, hruns, fun tokens' htokens' => ?_⟩
    obtain rfl := Except.ok.inj (htokens.symm.trans htokens')
    exact hempty

/-- Tokens of a heading without content and of a heading whose texts become equal in bold. -/
def boldHeadings : List Token :=
  [{ kind := .headingOpen, tag := "h1" }, { kind := .headingClose },
    { kind := .headingOpen, tag := "h2" },
    { kind := .inline,
      children := some [.text "a", .openMark .strong, .text "b", .closeMark .strong, .hardBreak] },
    { kind := .headingClose }]

theorem convert_boldHeadings_runs :
    ∃ c, (convert { preset := .comment } toString (fun _ => .ok boldHeadings)
        (.str "# ")).result = .ok c ∧
      Node.Canonical c.document.content ∧ (∀ n ∈ c.document.nodes, n.HoldsRuns) ∧
        c.document.nodes.countP Node.isEmptyText ≤
          (Site.mk { preset := .comment } ["# "]).emptied (Outline.ofTokens boldHeadings) ∧
        (Site.mk { preset := .comment } ["# "]).emptied (Outline.ofTokens boldHeadings) = 1 :=
  have h := @convert_runs { preset := .comment } toString (fun _ => .ok boldHeadings) "# " _ rfl
  ⟨_, rfl, h.1, h.2.1, h.2.2 boldHeadings rfl, rfl⟩

end Profile

end MarkdownAdf
