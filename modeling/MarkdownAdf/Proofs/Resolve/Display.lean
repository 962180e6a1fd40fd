import MarkdownAdf.Proofs.Node.Language
import MarkdownAdf.Proofs.Resolve.Agreement
import MarkdownAdf.Proofs.Resolve.Code
import MarkdownAdf.Proofs.Resolve.Leaves

/-!
# Options of display

Whether tables give warnings and which language code has by default are matters of display. Two
conversions that differ in nothing else end in the same way, with the same warnings but for those
about tables and the same nodes but for the languages of code blocks that name none. Tables give
their warnings wherever they stand, also where they are dropped.
-/

namespace MarkdownAdf

/-- Only blanks can be trimmed away as a whole. -/
theorem Text.isBlankText_of_trim_eq_empty {s : String} (h : trim s = "") :
    isBlankText s = true := by
  have hstrip : stripList isBlank s.toList = [] := by
    simpa [trim] using congrArg String.toList h
  rw [stripList, List.reverse_eq_nil_iff, List.dropWhile_eq_nil_iff] at hstrip
  rw [isBlankText, ← @List.takeWhile_append_dropWhile _ isBlank s.toList, List.all_append,
    List.all_takeWhile, Bool.true_and, List.all_eq_true]
  exact fun c hc => hstrip c (List.mem_reverse.mpr hc)

/-- The token of a table. -/
def Block.table? : Block → Option Token
  | .table opening _ => some opening
  | _ => none

/-- The tables of an outline, in their order. -/
def Outline.tables (tokens : List Token) : List Token :=
  (Block.leavesAll (ofTokens tokens)).filterMap Block.table?

/-- Whether the event is the warning that a table gives. -/
def Event.isRisky (e : Event) : Bool := e.notice?.any fun n => n.issue.kind = .riskyFeature

namespace Site

open Outcome Node

/-- The place with other options of display. -/
def withDisplay (s : Site) (warnOnRiskyNodes : Bool) (defaultCodeLanguage : String) : Site :=
  { s with profile := { s.profile with warnOnRiskyNodes, defaultCodeLanguage } }

variable (s : Site) (warn : Bool) (language : String)

/-! ### Two conversions side by side -/

/-- The two conversions end in the same way and differ in no event but the warnings of tables. -/
abbrev Matches {α β : Type} (R : α → β → Prop) (x : Outcome α) (y : Outcome β) : Prop :=
  Agrees (fun e => !e.isRisky) R x y

/-- Nodes that are the same but for the languages of code. -/
def SameNodes (ns ms : List Node) : Prop := withoutLanguages ns = withoutLanguages ms

/-- Flagged items that are the same but for the languages of code. -/
def SameItems (is js : List (Bool × Node)) : Prop :=
  is.map (fun i => (i.1, i.2.withoutLanguage)) = js.map fun j => (j.1, j.2.withoutLanguage)

namespace SameNodes

variable {ns ms ns' ms' : List Node}

theorem length_eq (h : SameNodes ns ms) : ns.length = ms.length := by
  rw [SameNodes, withoutLanguages_eq_map, withoutLanguages_eq_map] at h
  simpa using congrArg List.length h

theorem isEmpty_eq (h : SameNodes ns ms) : ns.isEmpty = ms.isEmpty := by
  cases ns <;> cases ms <;> first | rfl | cases h.length_eq

theorem append (h : SameNodes ns ms) (h' : SameNodes ns' ms') :
    SameNodes (ns ++ ns') (ms ++ ms') := by
  rw [SameNodes, withoutLanguages_append, withoutLanguages_append, h, h']

theorem orParagraph (h : SameNodes ns ms) : SameNodes (orParagraph ns) (orParagraph ms) := by
  rw [SameNodes, withoutLanguages_orParagraph, withoutLanguages_orParagraph, h]

theorem filter (p : NodeKind → Bool) (h : SameNodes ns ms) :
    SameNodes (ns.filter fun n => p n.kind) (ms.filter fun n => p n.kind) := by
  rw [SameNodes, withoutLanguages_filter, withoutLanguages_filter, h]

theorem container {k : NodeKind} (hk : k ≠ .codeBlock) (h : SameNodes ns ms) :
    (container k ns).withoutLanguage = (container k ms).withoutLanguage := by
  rw [withoutLanguage_container hk, withoutLanguage_container hk, h]

end SameNodes

theorem matches_self (x : Outcome (List Node)) : Matches SameNodes x x :=
  .mono (.refl x) fun _ _ h => h ▸ rfl

theorem matches_code (t : Token) :
    Matches SameNodes (pure (s.code t)) (pure ((s.withDisplay warn language).code t)) :=
  .pure (congrArg (fun n => [n]) (withoutLanguage_codeBlock _ _ _))

/-- Either conversion may have a warning for a table. -/
theorem matches_table (opening : Token) (parts : List (TablePart (Option Token))) :
    Matches SameNodes (s.table opening parts)
      ((s.withDisplay warn language).table opening parts) := by
  have hparts : (s.withDisplay warn language).tableParts parts = s.tableParts parts := by
    induction parts with
    | nil => rfl
    | cons part rest ih =>
        cases part with
        | cell header body =>
            rw [tableParts, tableParts, ih]
            rfl
        | _ => simp only [tableParts, ih]
  rw [table, table, hparts]
  refine .bind (.refl _) ?_
  rintro cells _ rfl
  exact .ite_skip_left rfl (.ite_skip_right rfl (.pure rfl))

theorem matches_quote (opening : Token) {ns ms : List Node} (h : SameNodes ns ms) :
    Matches SameNodes (s.quote opening ns) ((s.withDisplay warn language).quote opening ms) := by
  have hquote : SameNodes [blockquote (orParagraph ns)] [blockquote (orParagraph ms)] :=
    congrArg (fun n => [n]) (h.orParagraph.container nofun)
  exact .ite_note .rfl h.orParagraph hquote

theorem matches_listItem (opening : Token) {ns ms : List Node} (h : SameNodes ns ms) :
    Matches (fun n m => n.withoutLanguage = m.withoutLanguage) (Site.listItem opening ns)
      (Site.listItem opening ms) := by
  have hkept := h.filter NodeKind.fitsListItem
  have hitem := hkept.orParagraph.container (k := .listItem) nofun
  refine .ite_note ?_ hitem hitem
  rw [hkept.length_eq, h.length_eq]

theorem matches_taskItem (opening : Token) (content : List Node × Bool) {ns ms : List Node}
    (h : SameNodes ns ms) :
    Matches (fun n m => n = m) (Site.taskItem opening content ns)
      (Site.taskItem opening content ms) := by
  rw [Site.taskItem, Site.taskItem, h.isEmpty_eq]
  exact .refl _

theorem matches_list (opening : Token) (ordered : Bool) {is js : List (Bool × Node)}
    (h : SameItems is js) :
    Matches SameNodes (Site.list opening ordered is) (Site.list opening ordered js) := by
  have hlists : SameNodes ((flagRuns is).map (listOf ordered))
      ((flagRuns js).map (listOf ordered)) := by
    rw [SameNodes, withoutLanguages_flagRuns, h, withoutLanguages_flagRuns]
  have hlength : (flagRuns is).length = (flagRuns js).length := by
    simpa using hlists.length_eq
  rw [Site.list, Site.list, hlength]
  exact .ite_note .rfl hlists hlists

mutual

theorem matches_block : ∀ b : Block,
    Matches SameNodes (s.block b) ((s.withDisplay warn language).block b)
  | .paragraph _ _ | .heading _ _ | .loose _ | .rule _ | .stray _ => matches_self _
  | .code t => s.matches_code warn language t
  | .quote opening children =>
    .bind (matches_blocks children) fun _ _ h => s.matches_quote warn language opening h
  | .list opening ordered is =>
    .bind (matches_items is) fun _ _ h => matches_list opening ordered h
  | .table opening parts => s.matches_table warn language opening parts

/-- Blocks are converted in the same way under other options of display. -/
theorem matches_blocks : ∀ bs : List Block,
    Matches SameNodes (s.blocks bs) ((s.withDisplay warn language).blocks bs)
  | [] => matches_self _
  | b :: bs =>
    .bind (matches_block b) fun _ _ hb => .bind (matches_blocks bs) fun _ _ hbs =>
      .pure (hb.append hbs)

theorem matches_item : ∀ i : Item,
    Matches (fun i j => (i.1, i.2.withoutLanguage) = (j.1, j.2.withoutLanguage)) (s.item i)
      ((s.withDisplay warn language).item i)
  | ⟨opening, false, children⟩ =>
    .bind (matches_blocks children) fun _ _ h =>
      .bind (matches_listItem opening h) fun _ _ h => .pure (congrArg (Prod.mk false) h)
  | ⟨_, true, []⟩ => .mono (.refl _) fun _ _ h => h ▸ rfl
  | ⟨opening, true, b :: rest⟩ => by
    have hothers := Block.lead_snd
      (P := fun bs => Matches SameNodes (s.blocks bs) ((s.withDisplay warn language).blocks bs))
      (matches_blocks (b :: rest)) (matches_blocks rest)
    have hlead (lead : Option (Option Token)) :
        (s.withDisplay warn language).leadContent lead = s.leadContent lead := by
      cases lead <;> rfl
    rw [item_task, item_task, hlead]
    refine .bind (.refl _) ?_
    rintro content _ rfl
    refine .bind hothers fun _ _ h => .bind (matches_taskItem opening content h) ?_
    rintro task _ rfl
    exact .pure rfl

theorem matches_items : ∀ is : List Item,
    Matches SameItems (s.items is) ((s.withDisplay warn language).items is)
  | [] => .pure rfl
  | i :: is =>
    .bind (matches_item i) fun _ _ hi => .bind (matches_items is) fun _ _ his =>
      .pure (List.cons_eq_cons.mpr ⟨hi, his⟩)

end

/-! ### Warnings of tables -/

/-- The leaf blocks that a conversion converts: those before the first that ends it. -/
def reached (bs : List Block) : List Block :=
  (Block.leavesAll bs).takeWhile fun b => (s.leafNotice? b).all fun n => !s.rejects n

/-- The tables that a conversion converts. -/
def tables (tokens : List Token) : List Token :=
  (s.reached (Outline.ofTokens tokens)).filterMap Block.table?

/-- The notice about a table. -/
def tableNotice (opening : Token) : Notice := ⟨.tableRisky s.profile.preset, opening.line, none⟩

/-- Whether tables give warnings. -/
def flagsTables : Bool := s.profile.warnOnRiskyNodes && s.profile.preset.tablesAreRisky

theorem filter_leafNotice?_risky (b : Block) :
    (s.leafNotice? b).filter (fun n => n.issue.kind = .riskyFeature) =
      if s.flagsTables then (Block.table? b).map s.tableNotice else none := by
  cases b with
  | table opening parts =>
      rw [leafNotice?, flagsTables]
      split <;> rfl
  | heading opening body =>
      rw [leafNotice?]
      cases h : s.profile.headingIssue? opening.headingLevel with
      | none => simp [Block.table?]
      | some issue =>
          simp [Block.table?, Issue.kind_of_isHeading (headingIssue?_isHeading h)]
  | _ => simp [leafNotice?, Block.table?, Issue.kind]

/-- A conversion warns of each table that it converts, or of none. -/
theorem warnings_resolve_risky (tokens : List Token) :
    (warnings (s.resolve tokens).events).filter (fun w => w.kind = .riskyFeature) =
      if s.flagsTables then (s.tables tokens).map fun t => (s.tableNotice t).warning else [] := by
  have hrecords := s.records_blocks (Outline.ofTokens tokens)
  have hleaf (n : Notice) (hn : decide (n.issue.kind = .riskyFeature) = true) :
      n.issue.isAboutLeaf = true := by
    obtain ⟨issue, line, text⟩ := n
    cases issue <;> first | rfl | cases of_decide_eq_true hn
  have hkind : (fun w : Warning => decide (w.kind = .riskyFeature)) ∘ Notice.warning =
      fun n => decide (n.issue.kind = .riskyFeature) := rfl
  rw [warnings, List.filter_map, hkind, resolve, hrecords.filter_notices hleaf, leafNotices,
    List.takeWhile_filterMap, List.filter_filterMap, funext s.filter_leafNotice?_risky]
  cases s.flagsTables with
  | true => simp [tables, reached, List.map_filterMap, Function.comp_def]
  | false => simp

/-- A conversion with a result has converted all tables. -/
theorem tables_of_ok {tokens : List Token} {nodes : List Node}
    (h : (s.resolve tokens).result = .ok nodes) : s.tables tokens = Outline.tables tokens := by
  have hrecords := s.records_blocks (Outline.ofTokens tokens)
  have hnone : (s.leafNotices (Outline.ofTokens tokens)).find? s.rejects = none := by
    rw [← hrecords.ending, abort?, show (s.blocks _).result = .ok nodes from h]
  rw [tables, reached, Outline.tables]
  refine congrArg (List.filterMap _) (List.takeWhile_eq_self_iff.mpr fun b hb => ?_)
  rw [Option.all_eq_true]
  intro n hn
  simpa using List.find?_eq_none.mp hnone n (List.mem_filterMap.mpr ⟨b, hb, hn⟩)

/-- The conversion warns of each table that it converts, wherever that stands, when its preset is
the one for comments and these warnings are on, and of none otherwise. When it has a result it has
converted all tables. -/
def FlagsTables (tokens : List Token) : Prop :=
  (warnings (s.resolve tokens).events).filter (fun w => w.kind = .riskyFeature) =
      (if s.profile.preset = .comment ∧ s.profile.warnOnRiskyNodes = true then
        (s.tables tokens).map fun t => (s.tableNotice t).warning
      else []) ∧
    ∀ nodes, (s.resolve tokens).result = .ok nodes → s.tables tokens = Outline.tables tokens

theorem flagsTables_resolve (tokens : List Token) : s.FlagsTables tokens := by
  refine ⟨?_, fun _ => s.tables_of_ok⟩
  have hflags : s.flagsTables = true ↔
      s.profile.preset = .comment ∧ s.profile.warnOnRiskyNodes = true := by
    rw [flagsTables, Bool.and_eq_true, Preset.tablesAreRisky, beq_iff_eq, and_comm]
  rw [s.warnings_resolve_risky]
  by_cases h : s.flagsTables = true
  · rw [if_pos h, if_pos (hflags.mp h)]
  · rw [if_neg h, if_neg (mt hflags.mpr h)]

/-! ### What options of display leave alone -/

/-- Code whose info string is not blank is shown in the same way. -/
theorem code_withDisplay {t : Token} (h : Text.isBlankText t.info = false) :
    (s.withDisplay warn language).code t = s.code t := by
  have hlanguage : Text.trim t.info ≠ "" := fun htrim => by
    rw [Text.isBlankText_of_trim_eq_empty htrim] at h
    cases h
  have hsome : t.language? = some (Text.trim t.info) := by
    rw [Token.language?, nonempty?, if_neg hlanguage]
  rw [code, code, hsome]
  rfl

/-- Under other options of display a conversion ends with the same notice, or it gives the same
nodes but for the languages of code. The code blocks come from the same tokens, and only for those
with a blank info string the language can be another. The warnings are the same but for those of
tables, of which each conversion gives its own. -/
theorem resolve_withDisplay (s : Site) (warn : Bool) (language : String) (tokens : List Token) :
    let other := s.withDisplay warn language
    ((∃ n, (s.resolve tokens).result = .error n ∧ (other.resolve tokens).result = .error n) ∨
        ∃ ns ms, (s.resolve tokens).result = .ok ns ∧ (other.resolve tokens).result = .ok ms ∧
          withoutLanguages ns = withoutLanguages ms ∧
          ofKind .codeBlock ns = (Outline.codes tokens).flatMap s.code ∧
          ofKind .codeBlock ms = (Outline.codes tokens).flatMap other.code) ∧
      (∀ t : Token, Text.isBlankText t.info = false → other.code t = s.code t) ∧
      (warnings (s.resolve tokens).events).filter (fun w => w.kind ≠ .riskyFeature) =
        (warnings (other.resolve tokens).events).filter (fun w => w.kind ≠ .riskyFeature) ∧
      s.FlagsTables tokens ∧ other.FlagsTables tokens := by
  intro other
  have hmatches : Matches SameNodes (s.resolve tokens) (other.resolve tokens) :=
    s.matches_blocks warn language (Outline.ofTokens tokens)
  refine ⟨?_, fun t => s.code_withDisplay warn language, ?_, s.flagsTables_resolve tokens,
    other.flagsTables_resolve tokens⟩
  · obtain herror | ⟨ns, ms, hns, hms, hsame⟩ := hmatches.results.exists
    · exact .inl herror
    · exact .inr ⟨ns, ms, hns, hms, hsame,
        (s.ensures_holdsCode_blocks (Outline.ofTokens tokens) ns hns).codes,
        (other.ensures_holdsCode_blocks (Outline.ofTokens tokens) ms hms).codes⟩
  · simp only [warnings, notices, List.map_filterMap, List.filter_filterMap]
    refine hmatches.filterMap_events fun e he => ?_
    cases hnotice : e.notice? with
    | none => rfl
    | some n =>
        have hrisky : n.issue.kind = .riskyFeature := by
          simpa [Event.isRisky, hnotice] using he
        simp [Notice.warning, hrisky]

end Site

end MarkdownAdf
