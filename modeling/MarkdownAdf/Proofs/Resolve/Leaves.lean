import Mathlib.Data.List.TakeWhile
import MarkdownAdf.Proofs.Resolve.Strict

/-!
# Notices about leaf blocks

A conversion takes issue with headings, rules and tables one by one, in the order in which they
stand in the outline, wherever they are nested and whatever becomes of what they are nested in. So
what it records about them, and the notice with which it ends, are read off the leaf blocks.
-/

namespace MarkdownAdf

namespace Block

mutual

/-- The blocks that hold no other blocks, in the order in which they are converted. -/
def leaves : Block → List Block
  | .quote _ children => leavesAll children
  | .list _ _ items => leavesItems items
  | b => [b]

def leavesAll : List Block → List Block
  | [] => []
  | b :: rest => leaves b ++ leavesAll rest

def leavesItem : Item → List Block
  | ⟨_, _, children⟩ => leavesAll children

def leavesItems : List Item → List Block
  | [] => []
  | i :: rest => leavesItem i ++ leavesItems rest

end

end Block

/-- Whether the issue is about a leaf block. -/
def Issue.isAboutLeaf : Issue → Bool
  | headingUnsupported _ | headingTooDeep .. | headingsOff | ruleUnsupported | tableRisky _ => true
  | itemBlocksDropped | taskBlocksDropped | quoteUnwrapped _ => false

theorem Issue.isAboutLeaf_of_isHeading {i : Issue} (h : i.isHeading = true) :
    i.isAboutLeaf = true := by
  cases i <;> first | rfl | cases h

theorem Issue.kind_of_isHeading {i : Issue} (h : i.isHeading = true) :
    i.kind = .lossyConversion := by
  cases i <;> first | rfl | cases h

namespace Outcome

variable {α β : Type}

/-- The notice with which an outcome aborts, if it does. -/
def abort? (x : Outcome α) : Option Notice :=
  match x.result with
  | .ok _ => none
  | .error n => some n

/-- Of the notices about leaf blocks, an outcome records those before the first one that `rejects`
does not let pass, and it aborts with that one. -/
structure Records (rejects : Notice → Bool) (x : Outcome α) (ns : List Notice) : Prop where
  log : (notices x.events).filter (fun n => n.issue.isAboutLeaf) =
    ns.takeWhile fun n => !rejects n
  ending : x.abort? = ns.find? rejects

namespace Records

variable {rejects : Notice → Bool}

theorem pure (a : α) : Records rejects (pure a) [] := ⟨rfl, rfl⟩

/-- What is no notice about a leaf block counts for nothing. -/
theorem of_silent {x : Outcome α} (hx : ∀ n ∈ notices x.events, n.issue.isAboutLeaf = false)
    (h : x.abort? = none) : Records rejects x [] :=
  ⟨List.filter_eq_nil_iff.mpr fun n hn => by simp [hx n hn], h⟩

theorem warn {n : Notice} (hn : n.issue.isAboutLeaf = true) (h : rejects n = false) :
    Records rejects (warn n) [n] :=
  ⟨by simp [Outcome.warn, note, notices, Event.notice?, hn, h],
    by simp [Outcome.warn, note, abort?, h]⟩

theorem bind {x : Outcome α} {f : α → Outcome β} {ns ms : List Notice} (hx : Records rejects x ns)
    (hf : ∀ a, Records rejects (f a) ms) : Records rejects (x >>= f) (ns ++ ms) := by
  obtain ⟨hlog, hending⟩ := hx
  rcases x with ⟨es, n | a⟩
  · -- The first step ended the conversion, so what the second would say is cut off.
    have hn : ns.find? rejects = some n := hending.symm
    have hstop : (ns.takeWhile fun n => !rejects n).length ≠ ns.length := fun hlength => by
      have hself := (List.takeWhile_sublist _).eq_of_length hlength
      have hpass := List.takeWhile_eq_self_iff.mp hself n (List.mem_of_find?_eq_some hn)
      simp [List.find?_some hn] at hpass
    refine ⟨?_, ?_⟩
    · rw [List.takeWhile_append, if_neg hstop]
      exact hlog
    · rw [List.find?_append, hn]
      rfl
  · -- All notices of the first step passed, so the cut lies among those of the second.
    have hnone : ns.find? rejects = none := hending.symm
    have hall : ∀ n ∈ ns, (!rejects n) = true := by simpa using hnone
    refine ⟨?_, ?_⟩
    · rw [bind_ok, notices_append, List.filter_append, List.takeWhile_append_of_pos hall,
        (hf a).log]
      exact congrArg (· ++ _) (hlog.trans (List.takeWhile_eq_self_iff.mpr hall))
    · rw [List.find?_append, hnone]
      exact (hf a).ending

/-- Only the second of two steps records anything. -/
theorem silent_bind {x : Outcome α} {f : α → Outcome β} {ms : List Notice}
    (hx : Records rejects x []) (hf : ∀ a, Records rejects (f a) ms) :
    Records rejects (x >>= f) ms := hx.bind hf

/-- Only the first of two steps records anything. -/
theorem bind_silent {x : Outcome α} {f : α → Outcome β} {ns : List Notice}
    (hx : Records rejects x ns) (hf : ∀ a, Records rejects (f a) []) :
    Records rejects (x >>= f) ns := by
  simpa using hx.bind hf

/-- A warning about a container, or another event, may be noted on the way. -/
theorem note {e : Event} (h : ∀ n, e.notice? = some n → n.issue.isAboutLeaf = false) :
    Records rejects (note e) [] := by
  refine .of_silent (fun n hn => ?_) rfl
  obtain ⟨e', he', hnotice⟩ := List.mem_filterMap.mp hn
  obtain rfl := List.mem_singleton.mp he'
  exact h n hnotice

/-- A warning about a container, or another event, may be noted before a result is returned. -/
theorem ite_note {c : Prop} [Decidable c] {e : Event} {a b : α}
    (h : ∀ n, e.notice? = some n → n.issue.isAboutLeaf = false) :
    Records rejects (if c then Outcome.note e >>= fun _ => Pure.pure a else Pure.pure b) [] := by
  split
  · exact .silent_bind (.note h) fun _ => .pure a
  · exact .pure b

/-- What is recorded about leaf blocks of a certain sort. -/
theorem filter_notices {x : Outcome α} {ns : List Notice} (h : Records rejects x ns)
    {q : Notice → Bool} (hq : ∀ n, q n = true → n.issue.isAboutLeaf = true) :
    (notices x.events).filter q = (ns.takeWhile fun n => !rejects n).filter q := by
  rw [← h.log, List.filter_filter]
  refine List.filter_congr fun n _ => ?_
  cases hn : q n with
  | true => simp [hq n hn]
  | false => rfl

/-- An outcome with a result has let everything pass. -/
theorem takeWhile_eq_self {x : Outcome α} {ns : List Notice} {a : α} (h : Records rejects x ns)
    (hx : x.result = .ok a) : (ns.takeWhile fun n => !rejects n) = ns := by
  have hnone : ns.find? rejects = none := by rw [← h.ending, abort?, hx]
  exact List.takeWhile_eq_self_iff.mpr (by simpa using hnone)

end Records

end Outcome

namespace Site

open Outcome

variable (s : Site)

/-- Whether a notice ends the conversion. -/
def rejects (n : Notice) : Bool := s.profile.strictMode && n.issue.isAbortable

/-- What a conversion has to say about a leaf block. -/
def leafNotice? : Block → Option Notice
  | .heading opening body =>
    (s.profile.headingIssue? opening.headingLevel).map fun issue =>
      ⟨issue, opening.line, opening.headingSource body⟩
  | .rule t => some ⟨.ruleUnsupported, t.line, t.sourceText s.lines⟩
  | .table opening _ =>
    if s.profile.warnOnRiskyNodes && s.profile.preset.tablesAreRisky then
      some ⟨.tableRisky s.profile.preset, opening.line, none⟩
    else none
  | _ => none

/-- What a conversion has to say about the leaf blocks of a row of blocks. -/
def leafNotices (bs : List Block) : List Notice := (Block.leavesAll bs).filterMap s.leafNotice?

/-- What the children of a task have to say is said behind what leads them. -/
theorem leafNotices_lead (children : List Block) :
    s.leafNotices (Block.lead children).2 = s.leafNotices children := by
  cases children with
  | nil => rfl
  | cons b rest => cases b <;> rfl

theorem records_report {n : Notice} (hn : n.issue.isAboutLeaf = true) :
    Records s.rejects (report s.profile.strictMode n) [n] := by
  rw [report]
  split
  · next h =>
    have hrejects : s.rejects n = true := h
    exact ⟨by simp [abort, notices, Event.notice?, hrejects], by simp [abort, abort?, hrejects]⟩
  · next h =>
    exact .warn hn (by simpa [rejects] using h)

theorem records_inline (style : Inline.Style) (tokens : List Inline) :
    Records s.rejects (Inline.outcome style tokens) [] :=
  .of_silent (by simp [notices_inline]) rfl

theorem records_content (body : Option Token) : Records s.rejects (s.inline body) [] :=
  .bind_silent (s.records_inline _ _) fun _ => .pure _

theorem records_paragraph (body : Option Token) : Records s.rejects (s.paragraph body) [] :=
  .bind_silent (s.records_content body) fun _ => .pure _

theorem headingIssue?_isHeading {p : Profile} {level : Nat} {issue : Issue}
    (h : p.headingIssue? level = some issue) : issue.isHeading = true := by
  unfold Profile.headingIssue? at h
  split at h
  · exact Option.some.inj h ▸ rfl
  · split at h
    · exact Option.some.inj h ▸ rfl
    · split at h
      · exact Option.some.inj h ▸ rfl
      · cases h

theorem records_heading (opening : Token) (body : Option Token) :
    Records s.rejects (s.heading opening body) (s.leafNotice? (.heading opening body)).toList := by
  refine .silent_bind (s.records_content body) fun content => ?_
  rw [leafNotice?]
  cases h : s.profile.headingIssue? opening.headingLevel with
  | none => exact .pure _
  | some issue =>
      have hleaf := Issue.isAboutLeaf_of_isHeading (headingIssue?_isHeading h)
      exact .bind_silent (s.records_report hleaf) fun _ => .pure _

theorem records_tableParts (parts : List (TablePart (Option Token))) :
    Records s.rejects (s.tableParts parts) [] := by
  induction parts with
  | nil => exact .pure _
  | cons part rest ih =>
      cases part with
      | cell header body =>
          exact .silent_bind (s.records_content body) fun _ => .silent_bind ih fun _ => .pure _
      | _ => exact .silent_bind ih fun _ => .pure _

theorem records_table (opening : Token) (parts : List (TablePart (Option Token))) :
    Records s.rejects (s.table opening parts) (s.leafNotice? (.table opening parts)).toList := by
  refine .silent_bind (s.records_tableParts parts) fun cells => ?_
  rw [leafNotice?]
  split
  · have hrisky : s.rejects ⟨.tableRisky s.profile.preset, opening.line, none⟩ = false :=
      Bool.and_false _
    exact .bind_silent (.warn rfl hrisky) fun _ => .pure _
  · exact .pure _

theorem records_leadContent (lead : Option (Option Token)) :
    Records s.rejects (s.leadContent lead) [] := by
  cases lead with
  | none => exact .pure _
  | some body => exact .silent_bind (s.records_inline _ _) fun _ => .pure _

theorem records_quote (opening : Token) (inner : List Node) :
    Records s.rejects (s.quote opening inner) [] :=
  .ite_note fun _ hn => Option.some.inj hn ▸ rfl

theorem records_listItem (opening : Token) (blocks : List Node) :
    Records s.rejects (Site.listItem opening blocks) [] :=
  .ite_note fun _ hn => Option.some.inj hn ▸ rfl

theorem records_taskItem (opening : Token) (content : List Node × Bool) (extra : List Node) :
    Records s.rejects (Site.taskItem opening content extra) [] :=
  .ite_note fun _ hn => Option.some.inj hn ▸ rfl

theorem records_list (opening : Token) (ordered : Bool) (items : List (Bool × Node)) :
    Records s.rejects (Site.list opening ordered items) [] :=
  .ite_note nofun

theorem leafNotices_cons (b : Block) (bs : List Block) :
    s.leafNotices (b :: bs) = (Block.leaves b).filterMap s.leafNotice? ++ s.leafNotices bs :=
  List.filterMap_append

mutual

theorem records_block : ∀ b : Block,
    Records s.rejects (s.block b) ((Block.leaves b).filterMap s.leafNotice?)
  | .paragraph _ body => s.records_paragraph body
  | .heading opening body => s.records_heading opening body
  | .loose body => s.records_paragraph (some body)
  | .code _ => .pure _
  | .rule _ => .bind_silent (s.records_report rfl) fun _ => .pure _
  | .quote opening children =>
    .bind_silent (records_blocks children) fun _ => s.records_quote opening _
  | .list opening ordered is =>
    .bind_silent (records_items is) fun _ => s.records_list opening ordered _
  | .table opening parts => s.records_table opening parts
  | .stray _ => .silent_bind (.note nofun) fun _ => .pure _

/-- What a conversion has to say about leaf blocks is said in their order, up to the first notice
that ends it. -/
theorem records_blocks : ∀ bs : List Block, Records s.rejects (s.blocks bs) (s.leafNotices bs)
  | [] => .pure _
  | b :: bs => by
    rw [leafNotices_cons]
    exact .bind (records_block b) fun _ => .bind_silent (records_blocks bs) fun _ => .pure _

theorem records_item : ∀ i : Item,
    Records s.rejects (s.item i) ((Block.leavesItem i).filterMap s.leafNotice?)
  | ⟨opening, false, children⟩ =>
    .bind_silent (records_blocks children) fun _ =>
      .bind_silent (s.records_listItem opening _) fun _ => .pure _
  | ⟨opening, true, []⟩ =>
    .silent_bind (.pure _) fun _ => .silent_bind (s.records_taskItem opening _ _) fun _ => .pure _
  | ⟨opening, true, b :: rest⟩ => by
    have hothers := Block.lead_snd
      (P := fun bs => Records s.rejects (s.blocks bs) (s.leafNotices bs))
      (records_blocks (b :: rest)) (records_blocks rest)
    rw [leafNotices_lead] at hothers
    rw [item_task]
    exact .silent_bind (s.records_leadContent _) fun _ => .bind_silent hothers fun _ =>
      .bind_silent (s.records_taskItem opening _ _) fun _ => .pure _

theorem records_items : ∀ is : List Item,
    Records s.rejects (s.items is) ((Block.leavesItems is).filterMap s.leafNotice?)
  | [] => .pure _
  | i :: is => by
    rw [Block.leavesItems, List.filterMap_append]
    exact .bind (records_item i) fun _ => .bind_silent (records_items is) fun _ => .pure _

end

end Site

end MarkdownAdf
