import MarkdownAdf.Proofs.Node.LocalIds
import MarkdownAdf.Proofs.Resolve.Agreement
import MarkdownAdf.Proofs.Resolve.LeafNodes

/-!
# Local ids of documents

A conversion that draws ids on its way gives the nodes and the events of one that does not, with ids
on the task lists and task items. It draws no number twice, so the ids in a document are different
whatever was dropped in between, and numbering in document order gives the same document when the
supply is put in the right order.
-/

namespace MarkdownAdf

namespace Node

variable {id : Nat → String}

/-! ### Numbers that are drawn -/

/-- Numbers that are drawn when `next` were drawn before, and `last` are drawn behind them. Some
that were drawn may be missing. -/
structure Fresh (next : Nat) (ks : List Nat) (last : Nat) : Prop where
  le : next ≤ last
  nodup : ks.Nodup
  mem : ∀ k ∈ ks, next ≤ k ∧ k < last

theorem Fresh.nil (next : Nat) : Fresh next [] next :=
  ⟨Nat.le_refl next, List.nodup_nil, List.forall_mem_nil _⟩

theorem Fresh.single {next k : Nat} (h : next ≤ k) : Fresh next [k] (k + 1) :=
  ⟨Nat.le_succ_of_le h, by simp, by simpa using h⟩

theorem Fresh.range (next count : Nat) : Fresh next (List.range' next count) (next + count) :=
  ⟨Nat.le_add_right next count, List.nodup_range', fun k hk => by simpa using hk⟩

theorem Fresh.perm {next last : Nat} {ks ls : List Nat} (h : Fresh next ks last)
    (hls : ls.Perm ks) : Fresh next ls last :=
  ⟨h.le, hls.nodup_iff.mpr h.nodup, fun k hk => h.mem k (hls.mem_iff.mp hk)⟩

theorem Fresh.append {next middle last : Nat} {ks ls : List Nat} (h : Fresh next ks middle)
    (h' : Fresh middle ls last) : Fresh next (ks ++ ls) last := by
  refine ⟨Nat.le_trans h.le h'.le, ?_, ?_⟩
  · refine List.nodup_append.mpr ⟨h.nodup, h'.nodup, fun k hk l hl => ?_⟩
    have hlt := (h.mem k hk).2
    have hle := (h'.mem l hl).1
    omega
  · refine List.forall_mem_append.mpr ⟨fun k hk => ?_, fun k hk => ?_⟩
    · exact ⟨(h.mem k hk).1, Nat.lt_of_lt_of_le (h.mem k hk).2 h'.le⟩
    · exact ⟨Nat.le_trans h.le (h'.mem k hk).1, (h'.mem k hk).2⟩

theorem Fresh.sublist {next last : Nat} {ks ls : List Nat} (h : Fresh next ks last)
    (hls : ls.Sublist ks) : Fresh next ls last :=
  ⟨h.le, hls.nodup h.nodup, fun k hk => h.mem k (hls.subset hk)⟩

/-- Nodes with ids that were drawn for them, and the number of ids drawn behind them. -/
def Drawn (id : Nat → String) (next : Nat) (ns : List Node) (drawn : List Node × Nat) : Prop :=
  ∃ ks, Labels id ks ns drawn.1 ∧ Fresh next ks drawn.2

theorem Bare.drawn {ns : List Node} (h : Bare ns) (next : Nat) : Drawn id next ns (ns, next) :=
  ⟨[], h.labels, .nil next⟩

theorem Drawn.append {next middle last : Nat} {ns ms ns' ms' : List Node}
    (h : Drawn id next ns (ms, middle)) (h' : Drawn id middle ns' (ms', last)) :
    Drawn id next (ns ++ ns') (ms ++ ms', last) := by
  obtain ⟨ks, hks, hfresh⟩ := h
  obtain ⟨ls, hls, hfresh'⟩ := h'
  exact ⟨ks ++ ls, hks.append hls, hfresh.append hfresh'⟩

theorem Drawn.orParagraph {next : Nat} {ns : List Node} {drawn : List Node × Nat}
    (h : Drawn id next ns drawn) :
    Drawn id next (orParagraph ns) (orParagraph drawn.1, drawn.2) := by
  obtain ⟨ks, hks, hfresh⟩ := h
  exact ⟨ks, hks.orParagraph, hfresh⟩

theorem Drawn.container {k : NodeKind} {next : Nat} {ns : List Node} {drawn : List Node × Nat}
    (hk : k.isLabelled = false) (h : Drawn id next ns drawn) :
    Drawn id next [Node.container k ns] ([Node.container k drawn.1], drawn.2) := by
  obtain ⟨ks, hks, hfresh⟩ := h
  exact ⟨ks, hks.container hk, hfresh⟩

/-! ### Lists of items -/

/-- Flagged nodes with ids that were drawn for them, flag by flag. -/
def DrawnItems (id : Nat → String) (next : Nat) (items : List (Bool × Node))
    (drawn : List (Bool × Node) × Nat) : Prop :=
  ∃ pairs : List (Bool × Node × Node),
    items = pairs.map (fun x => (x.1, x.2.1)) ∧ drawn.1 = pairs.map (fun x => (x.1, x.2.2)) ∧
      Drawn id next (pairs.map fun x => x.2.1) (pairs.map (fun x => x.2.2), drawn.2)

theorem DrawnItems.nil (next : Nat) : DrawnItems id next [] ([], next) :=
  ⟨[], rfl, rfl, [], .nil, .nil next⟩

theorem DrawnItems.single {next last : Nat} {n m : Node} (flag : Bool)
    (h : Drawn id next [n] ([m], last)) : DrawnItems id next [(flag, n)] ([(flag, m)], last) :=
  ⟨[(flag, n, m)], rfl, rfl, h⟩

theorem DrawnItems.append {next middle last : Nat} {is js is' js' : List (Bool × Node)}
    (h : DrawnItems id next is (js, middle)) (h' : DrawnItems id middle is' (js', last)) :
    DrawnItems id next (is ++ is') (js ++ js', last) := by
  obtain ⟨pairs, rfl, rfl, hdrawn⟩ := h
  obtain ⟨pairs', rfl, rfl, hdrawn'⟩ := h'
  exact ⟨pairs ++ pairs', by simp, by simp, by simpa using hdrawn.append hdrawn'⟩

/-- A list of items that are not tasks has no id. -/
theorem exists_listOf_container (ordered : Bool) :
    ∃ k : NodeKind, k.isLabelled = false ∧ ∀ ns, listOf ordered (false, ns) = container k ns := by
  cases ordered with
  | true => exact ⟨.orderedList, rfl, fun _ => rfl⟩
  | false => exact ⟨.bulletList, rfl, fun _ => rfl⟩

/-- The lists of runs keep the numbers of their items, and each task list draws one more behind all
of them. -/
theorem exists_labels_lists (ordered : Bool) (runs : List (Bool × List (Node × Node)))
    {ks : List Nat} {middle : Nat}
    (h : Labels id ks (runs.flatMap fun run => run.2.map Prod.fst)
      (runs.flatMap fun run => run.2.map Prod.snd)) :
    ∃ ls count, Labels id ls (runs.map fun run => listOf ordered (run.1, run.2.map Prod.fst))
        (drawAll id middle
          (runs.map fun run => listOf ordered (run.1, run.2.map Prod.snd))).1 ∧
      (drawAll id middle
        (runs.map fun run => listOf ordered (run.1, run.2.map Prod.snd))).2 = middle + count ∧
      ls.Perm (ks ++ List.range' middle count) := by
  -- A task list stands in front of its items and draws its number behind them, so only the set of
  -- the numbers is the same, and the order is lost in a permutation.
  induction runs generalizing ks middle with
  | nil =>
      cases h
      exact ⟨[], 0, .nil, rfl, .refl _⟩
  | cons run runs ih =>
      obtain ⟨ks₁, ks₂, rfl, hitems, hrest⟩ := h.split (by simp)
      obtain ⟨flag, items⟩ := run
      simp only [List.map_cons, drawAll]
      cases flag with
      | true =>
          obtain ⟨ls, count, hlists, hlast, hperm⟩ := @ih ks₂ (middle + 1) hrest
          have hown : Labels id (middle :: ks₁) [listOf ordered (true, items.map Prod.fst)]
              [(draw id middle (listOf ordered (true, items.map Prod.snd))).1] :=
            .draw rfl rfl hitems
          refine ⟨_, count + 1, hown.append hlists, ?_, ?_⟩
          · exact hlast.trans (by omega)
          · rw [List.range'_succ]
            refine .trans ?_ List.perm_middle.symm
            rw [List.cons_append, List.append_assoc]
            exact (hperm.append_left ks₁).cons middle
      | false =>
          obtain ⟨k, hk, hlist⟩ := exists_listOf_container ordered
          obtain ⟨ls, count, hlists, hlast, hperm⟩ := @ih ks₂ middle hrest
          have hown := hitems.container hk
          have hsame : draw id middle (container k (items.map Prod.snd)) =
              (container k (items.map Prod.snd), middle) :=
            if_neg (by simp [hk])
          simp only [hlist, hsame]
          refine ⟨ks₁ ++ ls, count, hown.append hlists, hlast, ?_⟩
          rw [List.append_assoc]
          exact hperm.append_left ks₁

theorem DrawnItems.length_flagRuns {next : Nat} {items : List (Bool × Node)}
    {drawn : List (Bool × Node) × Nat} (h : DrawnItems id next items drawn) :
    (flagRuns drawn.1).length = (flagRuns items).length := by
  obtain ⟨pairs, rfl, hmarked, -⟩ := h
  rw [hmarked, flagRuns_map, flagRuns_map, List.length_map, List.length_map]

theorem DrawnItems.listOf {next : Nat} {items : List (Bool × Node)}
    {drawn : List (Bool × Node) × Nat} (ordered : Bool) (h : DrawnItems id next items drawn) :
    Drawn id next ((flagRuns items).map (listOf ordered))
      (drawAll id drawn.2 ((flagRuns drawn.1).map (listOf ordered))) := by
  obtain ⟨pairs, rfl, hmarked, ks, hlabels, hfresh⟩ := h
  have hside (side : Node × Node → Node) :
      pairs.map (fun x => side x.2) = (flagRuns pairs).flatMap fun run => run.2.map side := by
    rw [← List.map_flatMap, ← Function.comp_def, ← List.map_map, flatMap_flagRuns_snd]
  rw [hside Prod.fst, hside Prod.snd] at hlabels
  obtain ⟨ls, count, hlists, hlast, hperm⟩ :=
    @exists_labels_lists _ ordered _ _ drawn.2 hlabels
  rw [hmarked, flagRuns_map, flagRuns_map, List.map_map, List.map_map]
  have hall := hfresh.append (.range drawn.2 count)
  exact ⟨ls, hlists, hlast ▸ hall.perm hperm⟩

/-! ### Nodes without ids -/

theorem InLeaf.bare {ns : List Node} (h : InLeaf ns) : Bare ns := by
  intro n hn
  obtain ⟨hkind, hattrs⟩ := h n hn
  refine ⟨?_, hattrs⟩
  cases hn : n.kind <;> first | rfl | (rw [hn] at hkind; cases hkind)

theorem bare_codeBlock (source : String) (language : Option String) :
    Bare [codeBlock source language] := by
  have hlanguage : (optionalAttr "language" language).lookup "localId" = none := by
    rw [optionalAttr]
    split <;> rfl
  refine bare_iff.mpr (List.forall_mem_singleton.mpr ⟨⟨rfl, hlanguage⟩, ?_⟩)
  rw [codeBlock]
  split
  · exact inLeaf_nil.bare
  · exact (inLeaf_singleton rfl rfl inLeaf_nil).bare

end Node

namespace Site

open Outcome Node

variable (s : Site) {id : Nat → String}

/-! ### What is drawn, step by step -/

/-- The two conversions note the same and end in the same way, with ids drawn in the second. -/
abbrev Draws {α β : Type} (R : α → β → Prop) (x : Outcome α) (y : Outcome β) : Prop :=
  Agrees (fun _ => true) R x y

theorem draws_leaf (next : Nat) {x : Outcome (List Node)} (h : x.Ensures fun _ ns => Bare ns) :
    Draws (Drawn id next) x (do return (← x, next)) := by
  have hself : Draws (fun ns ms => ns = ms ∧ Bare ns) x x := .of_ensures h fun _ hns => ⟨rfl, hns⟩
  refine hself.map_right ?_
  rintro ns _ ⟨rfl, hns⟩
  exact hns.drawn next

theorem draws_inLeaf (next : Nat) {x : Outcome (List Node)}
    (h : x.Ensures fun _ ns => InLeaf ns) :
    Draws (Drawn id next) x (do return (← x, next)) :=
  draws_leaf next fun ns hns => (h ns hns).bare

theorem draws_quote (opening : Token) {next : Nat} {inner : List Node} {drawn : List Node × Nat}
    (h : Drawn id next inner drawn) :
    Draws (Drawn id next) (s.quote opening inner)
      (do return (← s.quote opening drawn.1, drawn.2)) := by
  refine Agrees.map_right (R := fun ns ms => Drawn id next ns (ms, drawn.2)) ?_ fun _ _ h => h
  exact .ite_note .rfl h.orParagraph (h.orParagraph.container rfl)

theorem draws_listItem (opening : Token) {next : Nat} {blocks : List Node}
    {drawn : List Node × Nat} (h : Drawn id next blocks drawn) :
    Draws (fun n m => Drawn id next [n] ([m], drawn.2)) (Site.listItem opening blocks)
      (Site.listItem opening drawn.1) := by
  obtain ⟨ks, hlabels, hfresh⟩ := h
  obtain ⟨ls, hls, hkept⟩ := hlabels.filter NodeKind.fitsListItem
  have hitem := @Drawn.container id .listItem next _ (_, drawn.2) rfl
    ⟨ls, hkept.orParagraph, hfresh.sublist hls⟩
  refine .ite_note ?_ hitem hitem
  rw [hkept.length_eq, hlabels.length_eq]

/-- The blocks behind the content of a task are dropped, but the ids drawn for them are used up. -/
theorem draws_taskItem (opening : Token) {content : List Node × Bool}
    (hcontent : ∀ n ∈ content.1, n.IsInline) {next : Nat} {extra : List Node}
    {drawn : List Node × Nat} (h : Drawn id next extra drawn) :
    Draws (fun item marked => DrawnItems id next [item] ([marked.1], marked.2))
      (do return (true, ← Site.taskItem opening content extra))
      (Site.drawTask id opening content drawn) := by
  obtain ⟨ks, hlabels, hfresh⟩ := h
  have hempty := hlabels.isEmpty_eq
  have htask : Draws (fun n m => n = Node.taskItem content.1 content.2 ∧ m = n)
      (Site.taskItem opening content extra) (Site.taskItem opening content drawn.1) := by
    rw [Site.taskItem, Site.taskItem, hempty]
    exact .ite_note .rfl ⟨rfl, rfl⟩ ⟨rfl, rfl⟩
  refine htask.bind ?_
  rintro _ _ ⟨rfl, rfl⟩
  have hlabelled : Labels id [drawn.2] [Node.taskItem content.1 content.2]
      [(draw id drawn.2 (Node.taskItem content.1 content.2)).1] :=
    .draw rfl rfl (inLeaf_inline hcontent).bare.labels
  exact .pure (.single true ⟨[drawn.2], hlabelled, .single hfresh.le⟩)

theorem draws_list (opening : Token) (ordered : Bool) {next : Nat} {items : List (Bool × Node)}
    {drawn : List (Bool × Node) × Nat} (h : DrawnItems id next items drawn) :
    Draws (Drawn id next) (Site.list opening ordered items)
      (do return drawAll id drawn.2 (← Site.list opening ordered drawn.1)) := by
  refine Agrees.map_right (R := fun ns ms => Drawn id next ns (drawAll id drawn.2 ms)) ?_
    fun _ _ h => h
  rw [Site.list, Site.list, h.length_flagRuns]
  exact .ite_note .rfl (h.listOf ordered) (h.listOf ordered)

/-! ### Whole outlines -/

mutual

/-- A block is converted in the same way when ids are drawn. -/
theorem draws_block : ∀ (b : Block) (next : Nat),
    Draws (Drawn id next) (s.block b) (s.drawBlock id next b)
  | .paragraph _ body, next => draws_inLeaf next (s.ensures_inLeaf_paragraph body)
  | .heading opening body, next => draws_inLeaf next (s.ensures_inLeaf_heading opening body)
  | .loose body, next => draws_inLeaf next (s.ensures_inLeaf_paragraph (some body))
  | .code _, next => draws_leaf next (.pure (bare_codeBlock _ _))
  | .rule t, next => draws_inLeaf next (s.ensures_inLeaf_rule t)
  | .quote opening children, next =>
    .bind (draws_blocks children next) fun _ _ h => s.draws_quote opening h
  | .list opening ordered is, next =>
    .bind (draws_items is next) fun _ _ h => draws_list opening ordered h
  | .table opening parts, next => draws_inLeaf next (s.ensures_inLeaf_table opening parts)
  | .stray _, next => draws_inLeaf next (.bind (.note _) fun _ _ _ => .pure inLeaf_nil)

theorem draws_blocks : ∀ (bs : List Block) (next : Nat),
    Draws (Drawn id next) (s.blocks bs) (s.drawBlocks id next bs)
  | [], next => .pure (inLeaf_nil.bare.drawn next)
  | b :: bs, next =>
    .bind (draws_block b next) fun _ first hb => .bind (draws_blocks bs first.2) fun _ _ hbs =>
      .pure (hb.append hbs)

theorem draws_item : ∀ (i : Item) (next : Nat),
    Draws (fun item drawn => DrawnItems id next [item] ([drawn.1], drawn.2)) (s.item i)
      (s.drawItem id next i)
  | ⟨opening, false, children⟩, next =>
    .bind (draws_blocks children next) fun _ _ h =>
      .bind (draws_listItem opening h) fun _ _ h => .pure (.single false h)
  | ⟨opening, true, []⟩, next =>
    draws_taskItem opening (List.forall_mem_nil _) (inLeaf_nil.bare.drawn next)
  | ⟨opening, true, b :: rest⟩, next => by
    have hothers := Block.lead_snd
      (P := fun bs => Draws (Drawn id next) (s.blocks bs) (s.drawBlocks id next bs))
      (draws_blocks (b :: rest) next) (draws_blocks rest next)
    rw [item_task, drawItem_task]
    refine .bind (R := fun a b => a = b ∧ ∀ n ∈ a.1, n.IsInline)
      (.of_ensures (s.ensures_leadContent _) fun _ h => ⟨rfl, h⟩) ?_
    rintro content _ ⟨rfl, hinline⟩
    exact .bind hothers fun _ _ h => draws_taskItem opening hinline h

theorem draws_items : ∀ (is : List Item) (next : Nat),
    Draws (DrawnItems id next) (s.items is) (s.drawItems id next is)
  | [], next => .pure (.nil next)
  | i :: is, next =>
    .bind (draws_item i next) fun _ first hi => .bind (draws_items is first.2) fun _ _ his =>
      .pure (hi.append his)

end

end Site

/-! ### Documents -/

/-- The numbers of a document in a supply of which they are the first. -/
theorem Node.Fresh.exists_order {next last : Nat} {ks : List Nat} (h : Fresh next ks last) :
    ∃ order : Nat → Nat, order.Injective ∧ ∀ i, (hi : i < ks.length) → order i = ks[i] := by
  -- Behind the numbers of the document stand numbers that are not drawn yet.
  refine ⟨fun i => ks[i]?.getD (last + i), fun i j hij => ?_, fun i hi => by simp [hi]⟩
  dsimp only at hij
  have hlt (i : Nat) (hi : i < ks.length) : ks[i] < last := (h.mem _ (List.getElem_mem hi)).2
  by_cases hi : i < ks.length
  · by_cases hj : j < ks.length
    · rw [List.getElem?_eq_getElem hi, List.getElem?_eq_getElem hj] at hij
      exact (List.getElem_inj h.nodup).mp hij
    · have := hlt i hi
      simp [hi, hj] at hij
      omega
  · by_cases hj : j < ks.length
    · have := hlt j hj
      simp [hi, hj] at hij
      omega
    · simp [hi, hj] at hij
      omega

namespace Profile

open Node

variable {p : Profile} {id : Nat → String} {next : Nat}
  {tokenize : String → Except String (List Token)} {markdown : String}

/-- A conversion that draws ids fails where one that leaves them out does, or both return and the
nodes of the second document are those of the first with ids drawn for them. -/
theorem convertDrawing_drawn (p : Profile) (id : Nat → String) (next : Nat)
    (tokenize : String → Except String (List Token)) (markdown : String) :
    (∃ f, (p.convertText tokenize markdown).result = .error f ∧
        p.convertDrawing id next tokenize markdown = .error f) ∨
      ∃ ns ms log last, (p.convertText tokenize markdown).result = .ok ⟨{ content := ns }, log⟩ ∧
        p.convertDrawing id next tokenize markdown = .ok (⟨{ content := ms }, log⟩, last) ∧
        Drawn id next ns (ms, last) := by
  rw [convertText, convertDrawing]
  by_cases hblank : Text.isBlankText markdown = true
  · rw [if_pos hblank, if_pos hblank]
    have hparagraph := inLeaf_paragraph (List.forall_mem_nil IsInline)
    exact .inr ⟨_, _, _, _, rfl, rfl, hparagraph.bare.drawn next⟩
  · rw [if_neg hblank, if_neg hblank]
    cases tokenize markdown with
    | error reason => exact .inl ⟨_, rfl, rfl⟩
    | ok tokens =>
        have hdraws : Site.Draws (Drawn id next) _ _ :=
          (Site.mk p (Text.lines markdown)).draws_blocks (Outline.ofTokens tokens) next
        have hevents := hdraws.events
        have hresults := hdraws.results
        simp only [List.filter_eq_self.mpr, implies_true] at hevents
        dsimp only [convertTokens, Site.resolve]
        rw [hevents]
        generalize Outcome.result _ = r at hresults ⊢
        generalize Outcome.result (Site.drawBlocks ..) = r' at hresults ⊢
        cases hresults with
        | error n => exact .inl ⟨_, rfl, rfl⟩
        | ok hnodes => exact .inr ⟨_, _, _, _, rfl, rfl, hnodes.orParagraph⟩

/-- Numbering in document order gives the same result as drawing ids on the way, for a supply that
has the ids of the document in front. -/
theorem exists_convert_eq_convertDrawing (p : Profile) (id : Nat → String) (next : Nat)
    (tokenize : String → Except String (List Token)) (markdown : String) :
    ∃ order : Nat → Nat, order.Injective ∧
      (p.convert (fun i => id (order i)) tokenize (.str markdown)).result =
        (p.convertDrawing id next tokenize markdown).map Prod.fst := by
  obtain ⟨f, htext, hdrawing⟩ | ⟨ns, ms, log, last, htext, hdrawing, ks, hlabels, hfresh⟩ :=
    convertDrawing_drawn p id next tokenize markdown
  · refine ⟨fun i => i, fun _ _ h => h, ?_⟩
    rw [convert, htext, hdrawing]
    rfl
  · obtain ⟨order, horder, hks⟩ := hfresh.exists_order
    refine ⟨order, horder, ?_⟩
    have hnumbered : labelAll (fun i => id (order i)) 0 ns = (ms, 0 + ks.length) :=
      hlabels.labelAll_eq fun i hi => by rw [Nat.zero_add, hks i hi]
    rw [convert, htext, hdrawing]
    simp only [Except.map, Document.label, hnumbered]

/-- In a document for which ids are drawn from a supply of different ones, the task lists and task
items carry ids and no other nodes do, the ids that are listed are theirs in document order, and no
two of them are the same. The document is the one that numbering gives for a supply with the same
ids in another order. -/
theorem convertDrawing_localIds {c : Conversion} {last : Nat} (hid : id.Injective)
    (hne : ∀ k, id k ≠ "")
    (h : p.convertDrawing id next tokenize markdown = .ok (c, last)) :
    (∀ n ∈ c.document.nodes, (n.attrs.lookup "localId").isSome = n.kind.isLabelled) ∧
      c.document.localIds =
        (c.document.nodes.filter fun n => n.kind.isLabelled).map Node.localId ∧
      c.document.localIds.Nodup ∧
      (∀ v ∈ c.document.localIds, ∃ k, next ≤ k ∧ k < last ∧ v = .str (id k)) ∧
      ∃ order : Nat → Nat, order.Injective ∧
        (p.convert (fun i => id (order i)) tokenize (.str markdown)).result = .ok c := by
  obtain ⟨order, horder, hconvert⟩ := exists_convert_eq_convertDrawing p id next tokenize markdown
  rw [h] at hconvert
  obtain ⟨f, -, hdrawing⟩ | ⟨ns, ms, log, last', -, hdrawing, ks, hlabels, hfresh⟩ :=
    convertDrawing_drawn p id next tokenize markdown
  · cases hdrawing.symm.trans h
  · cases hdrawing.symm.trans h
    have hlisted := hlabels.filter_isPresent hne
    have hids : Document.localIds { content := ms } = ks.map fun k => .str (id k) :=
      hlisted.trans hlabels.map_localId
    refine ⟨hlabels.isSome_carriedId, hlisted, ?_, ?_, order, horder, hconvert⟩
    · rw [hids]
      exact List.Pairwise.map _ (fun k l hkl heq => hkl (hid (Value.str.inj heq))) hfresh.nodup
    · rw [hids]
      intro v hv
      obtain ⟨k, hk, rfl⟩ := List.mem_map.mp hv
      exact ⟨k, (hfresh.mem k hk).1, (hfresh.mem k hk).2, rfl⟩

/-- A supply of ids that are told apart by their lengths. -/
def tally (k : Nat) : String := String.ofList (List.replicate (k + 1) 'i')

theorem tally_injective : tally.Injective := fun k l h => by
  simpa [tally] using congrArg String.length h

theorem tally_ne_empty (k : Nat) : tally k ≠ "" := fun h => by
  simpa [tally] using congrArg String.length h

/-- Tokens of a list with two tasks around another item, the first with a list of tasks below it,
and of a quote with a list of tasks. -/
def scatteredTasks : List Token :=
  let task : Token := { kind := .inline, children := some [.markup "<input type='checkbox'>"] }
  let single : List Token :=
    [{ kind := .listOpen false }, { kind := .itemOpen }, task, { kind := .itemClose },
      { kind := .listClose false }]
  [{ kind := .listOpen false }, { kind := .itemOpen }, task] ++ single ++
    [{ kind := .itemClose }, { kind := .itemOpen },
      { kind := .inline, children := some [.text "call"] }, { kind := .itemClose },
      { kind := .itemOpen }, task, { kind := .itemClose }, { kind := .listClose false },
      { kind := .quoteOpen }] ++ single ++ [{ kind := .quoteClose }]

theorem convertDrawing_scatteredTasks :
    ∃ c, convertDrawing {} tally 0 (fun _ => .ok scatteredTasks) "- [ ]" = .ok (c, 8) ∧
      c.document.localIds = [4, 2, 5, 3, 7, 6].map (fun k => .str (tally k)) ∧
      c.document.localIds.Nodup := by
  have hlisted : (convertDrawing {} tally 0 (fun _ => .ok scatteredTasks) "- [ ]").toOption.map
      (fun r => (r.1.document.localIds, r.2)) =
        some ([4, 2, 5, 3, 7, 6].map fun k => .str (tally k), 8) := by
    decide +kernel
  cases hdrawing : convertDrawing {} tally 0 (fun _ => .ok scatteredTasks) "- [ ]" with
  | error f =>
      rw [hdrawing] at hlisted
      cases hlisted
  | ok r =>
      obtain ⟨c, last⟩ := r
      rw [hdrawing] at hlisted
      obtain ⟨hids, rfl⟩ := Prod.mk.inj (Option.some.inj hlisted)
      exact ⟨c, rfl, hids,
        (convertDrawing_localIds tally_injective tally_ne_empty hdrawing).2.2.1⟩

end Profile

end MarkdownAdf
