import MarkdownAdf.Proofs.Document.Conversion
import MarkdownAdf.Proofs.Node.Build
import MarkdownAdf.Proofs.Resolve.Inline
import MarkdownAdf.Proofs.Resolve.Table

/-!
# Conversion conforms to the schema

Every step of a conversion gives conforming nodes, whatever outline it is given: the downgrades, the
filter of list items and the blocks of an unwrapped quote included. So a document that a conversion
gives conforms, for every tokenizer and every text.
-/

namespace MarkdownAdf

variable {p : Profile}

namespace Node

/-! ### Nodes -/

/-- A container of a kind about which the schema asks nothing beside its children. -/
theorem conforms_container {k : NodeKind} {content : List Node}
    (hfits : (container k content).Fits p) (hadmits : ∀ n ∈ content, k.admits n.kind = true)
    (hnonempty : k.needsContent = true → content ≠ []) (hcode : k ≠ .codeBlock) :
    (container k content).Conforms p := by
  refine ⟨hfits, ?_, ?_, fun _ => ⟨rfl, rfl⟩, ?_⟩
  · rw [kind_container]
    exact hadmits
  · rw [kind_container]
    exact hnonempty
  · rw [kind_container]
    exact fun h => absurd h hcode

theorem IsInline.admits {n : Node} (hn : n.IsInline) :
    (n.kind == .text || n.kind == .hardBreak) = true := by
  cases hn <;> rfl

theorem IsInline.conforms {n : Node} (hn : n.IsInline) : n.Conforms p ∧ n.content = [] := by
  cases hn with
  | run text h =>
      exact ⟨⟨⟨rfl, h⟩, List.forall_mem_nil _, nofun, fun h => absurd rfl h, nofun⟩, rfl⟩
  | hardBreak => exact ⟨conforms_container trivial (List.forall_mem_nil _) nofun nofun, rfl⟩

theorem allConform_inline {ns : List Node} (h : ∀ n ∈ ns, n.IsInline) : AllConform p ns := by
  refine allConform_iff.mpr fun n hn => ?_
  obtain ⟨hconforms, hcontent⟩ := (h n hn).conforms (p := p)
  exact ⟨hconforms, hcontent ▸ allConform_nil⟩

theorem allConform_paragraph {content : List Node} (h : ∀ n ∈ content, n.IsInline) :
    AllConform p [paragraph content] :=
  allConform_singleton (conforms_container trivial (fun n hn => (h n hn).admits) nofun nofun)
    (allConform_inline h)

theorem allConform_orParagraph {ns : List Node} (h : AllConform p ns) :
    AllConform p (orParagraph ns) := by
  rw [orParagraph]
  split
  · exact allConform_paragraph (List.forall_mem_nil _)
  · exact h

theorem allConform_codeBlock (source : String) (language : Option String) :
    AllConform p [codeBlock source language] := by
  have hcontent : (codeBlock source language).content = [] ∨
      (codeBlock source language).content = [run source] := by
    rw [codeBlock]
    split
    · exact .inl rfl
    · exact .inr rfl
  refine allConform_singleton ⟨?_, ?_, nofun, fun _ => ⟨rfl, rfl⟩, ?_⟩ ?_
  · show (codeBlock source language).content.length ≤ 1
    rcases hcontent with h | h <;> simp [h]
  · rcases hcontent with h | h
    · exact h ▸ List.forall_mem_nil _
    · exact h ▸ List.forall_mem_singleton.mpr rfl
  · rcases hcontent with h | h <;> simp [h, run]
  · rcases hcontent with h | h
    · exact h ▸ allConform_nil
    · exact h ▸ allConform_inline (by simpa using IsInline.run source (List.forall_mem_nil _))

theorem allConform_heading {level : Nat} {content : List Node}
    (hallows : p.preset.allowsHeadings = true) (huse : p.useHeadings = true) (hpos : 1 ≤ level)
    (hle : level ≤ p.maxHeadingLevel) (h : ∀ n ∈ content, n.IsInline) :
    AllConform p [heading level content] :=
  allConform_singleton
    ⟨⟨hallows, huse, level, rfl, hpos, hle⟩, fun n hn => (h n hn).admits, nofun,
      fun _ => ⟨rfl, rfl⟩, nofun⟩
    (allConform_inline h)

theorem allConform_listItem {ns : List Node} (h : AllConform p ns) :
    AllConform p [listItem (orParagraph (ns.filter fun n => n.kind.fitsListItem))] := by
  refine allConform_singleton (conforms_container trivial ?_ (fun _ => orParagraph_ne_nil _) nofun)
    (allConform_orParagraph (h.of_subset fun n hn => (List.mem_filter.mp hn).1))
  exact forall_mem_orParagraph rfl fun n hn => (List.mem_filter.mp hn).2

theorem allConform_taskItem {content : List Node} (checked : Bool)
    (h : ∀ n ∈ content, n.IsInline) : AllConform p [taskItem content checked] :=
  allConform_singleton
    ⟨⟨checked, rfl⟩, fun n hn => (h n hn).admits, nofun, fun _ => ⟨rfl, rfl⟩, nofun⟩
    (allConform_inline h)

theorem allConform_cell (header : Bool) {content : List Node} (h : ∀ n ∈ content, n.IsInline) :
    AllConform p [cell header content] := by
  refine allConform_singleton ?_ (by simpa using allConform_paragraph h)
  cases header
  · exact conforms_container rfl (List.forall_mem_singleton.mpr rfl) nofun nofun
  · exact conforms_container rfl (List.forall_mem_singleton.mpr rfl) nofun nofun

theorem allConform_map {α : Type} {f : α → Node} {as : List α}
    (h : ∀ a ∈ as, AllConform p [f a]) : AllConform p (as.map f) := by
  refine allConform_iff.mpr fun n hn => ?_
  obtain ⟨a, ha, rfl⟩ := List.mem_map.mp hn
  exact allConform_iff.mp (h a ha) (f a) List.mem_cons_self

/-- The rows of a table and its cells, each cell with inline content. -/
theorem allConform_tableOfRows {rows : List (List (Bool × List Node))}
    (h : ∀ cells ∈ rows, ∀ c ∈ cells, ∀ n ∈ c.2, n.IsInline) :
    AllConform p [tableOfRows rows] := by
  have hrow : ∀ cells ∈ rows, AllConform p [tableRow (cells.map fun c => cell c.1 c.2)] := by
    intro cells hcells
    refine allConform_singleton (conforms_container trivial ?_ nofun nofun)
      (allConform_map fun c hc => allConform_cell c.1 (h cells hcells c hc))
    intro n hn
    obtain ⟨c, -, rfl⟩ := List.mem_map.mp hn
    cases hheader : c.1 <;> simp [NodeKind.admits]
  refine allConform_singleton ⟨trivial, ?_, nofun, fun _ => ⟨rfl, rfl⟩, nofun⟩
    (allConform_map hrow)
  intro n hn
  obtain ⟨cells, -, rfl⟩ := List.mem_map.mp hn
  rfl

/-- The node of a run of items that are all tasks or all not. -/
theorem allConform_listOf (ordered : Bool) {run : Bool × List Node} (hrun : run.2 ≠ [])
    (hkind : ∀ n ∈ run.2, n.kind = if run.1 then .taskItem else .listItem)
    (h : AllConform p run.2) : AllConform p [listOf ordered run] := by
  obtain ⟨task, items⟩ := run
  cases task with
  | true =>
      have hadmits : ∀ n ∈ items, (n.kind == .taskItem) = true := by simpa using hkind
      exact allConform_singleton
        ⟨trivial, hadmits, fun _ => hrun, fun _ => ⟨rfl, rfl⟩, nofun⟩ h
  | false =>
      have hadmits : ∀ n ∈ items, (n.kind == .listItem) = true := by simpa using hkind
      have hnonempty {k : NodeKind} : k.needsContent = true → items ≠ [] := fun _ => hrun
      cases ordered with
      | true => exact allConform_singleton (conforms_container trivial hadmits hnonempty nofun) h
      | false => exact allConform_singleton (conforms_container trivial hadmits hnonempty nofun) h

theorem isTopLevel_listOf (ordered : Bool) (run : Bool × List Node) :
    (listOf ordered run).kind.isTopLevel = true := by
  rw [listOf]
  split
  · rfl
  · split <;> rfl

/-- Blocks that may stand at the top, with all below them. -/
def AreBlocks (p : Profile) (ns : List Node) : Prop :=
  (∀ n ∈ ns, n.kind.isTopLevel = true) ∧ AllConform p ns

theorem areBlocks_singleton {n : Node} (hn : n.kind.isTopLevel = true) (h : AllConform p [n]) :
    AreBlocks p [n] :=
  ⟨by simpa using hn, h⟩

theorem AreBlocks.append {as bs : List Node} (ha : AreBlocks p as) (hb : AreBlocks p bs) :
    AreBlocks p (as ++ bs) :=
  ⟨List.forall_mem_append.mpr ⟨ha.1, hb.1⟩, allConform_append ha.2 hb.2⟩

theorem AreBlocks.orParagraph {ns : List Node} (h : AreBlocks p ns) :
    AreBlocks p (orParagraph ns) :=
  ⟨forall_mem_orParagraph rfl h.1, allConform_orParagraph h.2⟩

end Node

/-! ### Steps of a conversion -/

namespace Site

open Outcome Node

variable (s : Site)

theorem ensures_inline (body : Option Token) :
    (s.inline body).Ensures fun _ ns => ∀ n ∈ ns, n.IsInline :=
  Ensures.bind (P := fun _ content => ∀ n ∈ content.nodes, n.IsInline)
    (fun _ h => Except.ok.inj h ▸ Inline.isInline_resolve _ _) fun _ _ h => .pure h

theorem ensures_taskContent (body : Option Token) :
    (s.taskContent body).Ensures fun _ content => ∀ n ∈ content.1, n.IsInline :=
  Ensures.bind (P := fun _ content => ∀ n ∈ content.nodes, n.IsInline)
    (fun _ h => Except.ok.inj h ▸ Inline.isInline_resolve _ _)
    fun _ _ h => .pure (isInline_trimFirst h)

theorem ensures_leadContent (lead : Option (Option Token)) :
    (s.leadContent lead).Ensures fun _ content => ∀ n ∈ content.1, n.IsInline := by
  cases lead with
  | none => exact .pure (List.forall_mem_nil _)
  | some body => exact s.ensures_taskContent body

theorem ensures_paragraph (body : Option Token) :
    (s.paragraph body).Ensures fun _ ns => AreBlocks s.profile ns :=
  .bind (s.ensures_inline body) fun _ _ h =>
    .pure (areBlocks_singleton rfl (allConform_paragraph h))

theorem one_le_headingLevel (t : Token) : 1 ≤ t.headingLevel := by
  rw [Token.headingLevel]
  split
  · split <;> omega
  · exact Nat.le_refl 1

theorem headingIssue?_eq_none {p : Profile} {level : Nat} (h : p.headingIssue? level = none) :
    p.preset.allowsHeadings = true ∧ p.useHeadings = true ∧ level ≤ p.maxHeadingLevel := by
  unfold Profile.headingIssue? at h
  split at h
  · cases h
  · next hpreset =>
    split at h
    · cases h
    · next huse =>
      split at h
      · cases h
      · next hlevel => exact ⟨by simpa using hpreset, by simpa using huse, Nat.le_of_not_lt hlevel⟩

/-- A heading stays a heading only where the profile has room for it. -/
theorem ensures_heading (opening : Token) (body : Option Token) :
    (s.heading opening body).Ensures fun _ ns => AreBlocks s.profile ns := by
  refine .bind (s.ensures_inline body) fun _ content hcontent => ?_
  cases h : s.profile.headingIssue? opening.headingLevel with
  | none =>
      obtain ⟨hallows, huse, hle⟩ := headingIssue?_eq_none h
      exact .pure (areBlocks_singleton rfl
        (allConform_heading hallows huse (one_le_headingLevel opening) hle hcontent))
  | some issue =>
      refine .bind (.report _ _) fun _ _ _ => ?_
      exact .pure (areBlocks_singleton rfl (allConform_paragraph (isInline_embolden hcontent)))

theorem ensures_rule (t : Token) :
    (s.rule t).Ensures fun _ ns => AreBlocks s.profile ns :=
  .bind (.report _ _) fun _ _ _ => .pure ⟨List.forall_mem_nil _, allConform_nil⟩

theorem areBlocks_code (t : Token) : AreBlocks s.profile (s.code t) :=
  areBlocks_singleton rfl (allConform_codeBlock _ _)

theorem ensures_quote (opening : Token) {inner : List Node} (h : AreBlocks s.profile inner) :
    (s.quote opening inner).Ensures fun _ ns => AreBlocks s.profile ns := by
  refine .ite (fun _ => .bind (.note _) fun _ _ _ => .pure h.orParagraph) fun hkeeps => .pure ?_
  have hpreset : s.profile.preset ≠ .comment := by simpa [Preset.unwrapsQuotes] using hkeeps
  exact areBlocks_singleton rfl (allConform_singleton
    (conforms_container hpreset h.orParagraph.1 (fun _ => orParagraph_ne_nil _) nofun)
    h.orParagraph.2)

theorem ensures_table (opening : Token) (parts : List (TablePart (Option Token))) :
    (s.table opening parts).Ensures fun _ ns => AreBlocks s.profile ns := by
  refine .bind (s.ensures_tableParts s.ensures_inline parts) fun _ cells hcells => ?_
  have htable : AreBlocks s.profile [tableOfRows (TablePart.rows cells)] :=
    areBlocks_singleton rfl (allConform_tableOfRows (TablePart.forall_mem_rows hcells))
  exact .ite_note htable htable

/-- An item of a list with whether it is a task. -/
def FitsFlag (p : Profile) (item : Bool × Node) : Prop :=
  (item.2.kind = if item.1 then .taskItem else .listItem) ∧ AllConform p [item.2]

theorem ensures_listItem (opening : Token) {ns : List Node} (h : AllConform s.profile ns) :
    (Site.listItem opening ns).Ensures fun _ n => FitsFlag s.profile (false, n) := by
  have hitem := allConform_listItem h
  exact .ite_note ⟨rfl, hitem⟩ ⟨rfl, hitem⟩

theorem ensures_taskItem (opening : Token) {content : List Node × Bool} (extra : List Node)
    (h : ∀ n ∈ content.1, n.IsInline) :
    (Site.taskItem opening content extra).Ensures fun _ n => FitsFlag s.profile (true, n) := by
  have hitem := allConform_taskItem (p := s.profile) content.2 h
  exact .ite_note ⟨rfl, hitem⟩ ⟨rfl, hitem⟩

theorem ensures_list (opening : Token) (ordered : Bool) {items : List (Bool × Node)}
    (h : ∀ item ∈ items, FitsFlag s.profile item) :
    (Site.list opening ordered items).Ensures fun _ ns => AreBlocks s.profile ns := by
  have hlists : AreBlocks s.profile ((flagRuns items).map (listOf ordered)) := by
    refine ⟨?_, allConform_map fun run hrun => ?_⟩
    · intro n hn
      obtain ⟨run, -, rfl⟩ := List.mem_map.mp hn
      exact isTopLevel_listOf ordered run
    · have hitem : ∀ n ∈ run.2, FitsFlag s.profile (run.1, n) :=
        fun n hn => h _ (mem_of_mem_flagRuns hrun hn)
      refine allConform_listOf ordered (flagRuns_ne_nil run hrun) (fun n hn => (hitem n hn).1) ?_
      exact allConform_iff.mpr fun n hn =>
        allConform_iff.mp (hitem n hn).2 n List.mem_cons_self
  exact .ite_note hlists hlists

/-! ### Whole outlines -/

mutual

theorem ensures_block : ∀ b : Block, (s.block b).Ensures fun _ ns => AreBlocks s.profile ns
  | .paragraph _ body => s.ensures_paragraph body
  | .heading opening body => s.ensures_heading opening body
  | .loose body => s.ensures_paragraph (some body)
  | .code t => .pure (s.areBlocks_code t)
  | .rule t => s.ensures_rule t
  | .quote opening children =>
    .bind (ensures_blocks children) fun _ _ h => s.ensures_quote opening h
  | .list opening ordered is =>
    .bind (ensures_items is) fun _ _ h => s.ensures_list opening ordered h
  | .table opening parts => s.ensures_table opening parts
  | .stray _ => .bind (.note _) fun _ _ _ => .pure ⟨List.forall_mem_nil _, allConform_nil⟩

theorem ensures_blocks : ∀ bs : List Block,
    (s.blocks bs).Ensures fun _ ns => AreBlocks s.profile ns
  | [] => .pure ⟨List.forall_mem_nil _, allConform_nil⟩
  | b :: bs =>
    .bind (ensures_block b) fun _ _ hb => .bind (ensures_blocks bs) fun _ _ hbs =>
      .pure (hb.append hbs)

theorem ensures_item : ∀ i : Item, (s.item i).Ensures fun _ item => FitsFlag s.profile item
  | ⟨opening, false, children⟩ =>
    .bind (ensures_blocks children) fun _ _ h =>
      .bind (s.ensures_listItem opening h.2) fun _ _ h => .pure h
  | ⟨opening, true, []⟩ =>
    .bind (P := fun _ _ => True) (.pure trivial) fun _ _ _ =>
      .bind (s.ensures_taskItem opening _ (List.forall_mem_nil _)) fun _ _ h => .pure h
  | ⟨opening, true, b :: rest⟩ => by
    have hothers := Block.lead_snd
      (P := fun bs => (s.blocks bs).Ensures fun _ ns => AreBlocks s.profile ns)
      (ensures_blocks (b :: rest)) (ensures_blocks rest)
    rw [item_task]
    exact .bind (s.ensures_leadContent _) fun _ _ hcontent => .bind hothers fun _ _ _ =>
      .bind (s.ensures_taskItem opening _ hcontent) fun _ _ h => .pure h

theorem ensures_items : ∀ is : List Item,
    (s.items is).Ensures fun _ items => ∀ item ∈ items, FitsFlag s.profile item
  | [] => .pure (List.forall_mem_nil _)
  | i :: is =>
    .bind (ensures_item i) fun _ _ hi => .bind (ensures_items is) fun _ _ his =>
      .pure (List.forall_mem_cons.mpr ⟨hi, his⟩)

end

end Site

namespace Profile

/-- A document that a conversion returns conforms to the schema of its profile, whatever the text
and whatever tokens it is cut into. -/
theorem convert_conforms {p : Profile} {id : Nat → String}
    {tokenize : String → Except String (List Token)} {markdown : String} {c : Conversion}
    (h : (p.convert id tokenize (.str markdown)).result = .ok c) : c.document.Conforms p := by
  have hof {ns : List Node} (hns : Node.AreBlocks p ns) (hne : ns ≠ []) :
      (Document.label id { content := ns }).Conforms p := by
    have hconforms : Document.Conforms p { content := ns } := ⟨hne, hns.1, hns.2⟩
    exact hconforms.label id
  obtain ⟨-, rfl⟩ | ⟨tokens, nodes, -, -, hnodes, rfl⟩ := convert_eq_ok h
  · refine hof (Node.areBlocks_singleton rfl ?_) (List.cons_ne_nil _ _)
    exact Node.allConform_paragraph (List.forall_mem_nil _)
  · have hblocks := (Site.mk p (Text.lines markdown)).ensures_blocks (Outline.ofTokens tokens)
    exact hof (hblocks nodes hnodes).orParagraph (Node.orParagraph_ne_nil nodes)

/-- Tokens of a quote that is left open. -/
def openQuote : List Token :=
  [{ kind := .quoteOpen },
    { kind := .headingOpen, tag := "h2" }, { kind := .inline, children := some [.text "Plan"] },
    { kind := .headingClose },
    { kind := .listOpen false }, { kind := .itemOpen },
    { kind := .inline, children := some [.markup "<input type='checkbox'>", .text " call"] },
    { kind := .rule }, { kind := .itemClose }, { kind := .listClose false },
    { kind := .tableOpen }]

theorem convert_openQuote_conforms :
    ∃ c, (convert { preset := .comment } toString (fun _ => .ok openQuote)
        (.str "> ## Plan")).result = .ok c ∧
      c.document.content.length = 3 ∧ c.document.Conforms { preset := .comment } :=
  ⟨_, rfl, rfl,
    @convert_conforms { preset := .comment } toString (fun _ => .ok openQuote) "> ## Plan" _ rfl⟩

end Profile

end MarkdownAdf
