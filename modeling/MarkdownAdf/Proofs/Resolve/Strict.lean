import MarkdownAdf.Converter
import MarkdownAdf.Proofs.Resolve.Outcome

/-!
# Strict mode

A strict conversion is the lenient one, cut off at the first warning that strict mode does not let
pass. A lenient conversion never ends with an error.
-/

namespace MarkdownAdf

/-- The issues that strict mode does not let pass under a profile: rules, headings that the preset
forbids, and headings below the deepest level where headings are in use. -/
def Profile.Rejects (p : Profile) : Issue → Prop
  | .ruleUnsupported => True
  | .headingUnsupported preset => preset = p.preset ∧ preset.allowsHeadings = false
  | .headingTooDeep level limit =>
    p.preset.allowsHeadings = true ∧ p.useHeadings = true ∧ limit = p.maxHeadingLevel ∧
      limit < level
  | _ => False

namespace Outcome

variable {α β : Type}

/-! ### Cutting an outcome -/

/-- The notice of a warning with which a strict conversion ends. -/
def abortable? (e : Event) : Option Notice := e.notice?.filter fun n => n.issue.isAbortable

/-- The first such warning, with the events before it. -/
def firstAbort : List Event → Option (List Event × Notice)
  | [] => none
  | e :: rest =>
    match abortable? e with
    | some n => some ([], n)
    | none => (firstAbort rest).map fun x => (e :: x.1, x.2)

/-- The outcome that ends at its first such warning. -/
def cut (x : Outcome α) : Outcome α :=
  match firstAbort x.events with
  | none => x
  | some (before, n) => ⟨before ++ [.aborting n], .error n⟩

theorem firstAbort_append (as bs : List Event) :
    firstAbort (as ++ bs) =
      (firstAbort as).or ((firstAbort bs).map fun x => (as ++ x.1, x.2)) := by
  induction as with
  | nil => simp [firstAbort]
  | cons a as ih =>
      rw [List.cons_append, firstAbort, firstAbort]
      cases abortable? a with
      | some n => rfl
      | none => cases has : firstAbort as <;> simp [ih, has, Function.comp_def]

theorem abortable?_eq_none_iff (e : Event) :
    abortable? e = none ↔ ∀ n, e.notice? = some n → n.issue.isAbortable = false := by
  simp [abortable?, Option.filter_eq_none_iff]

theorem firstAbort_eq_none_iff (es : List Event) :
    firstAbort es = none ↔ ∀ n ∈ notices es, n.issue.isAbortable = false := by
  have hmem (n : Notice) : n ∈ notices es ↔ ∃ e ∈ es, e.notice? = some n := List.mem_filterMap
  have hall : (∀ n ∈ notices es, n.issue.isAbortable = false) ↔ ∀ e ∈ es, abortable? e = none := by
    simp only [hmem, abortable?_eq_none_iff]
    exact ⟨fun h e he n hn => h n ⟨e, he, hn⟩, fun h n ⟨e, he, hn⟩ => h e he n hn⟩
  rw [hall]
  clear hmem hall
  induction es with
  | nil => simp [firstAbort]
  | cons e es ih => cases he : abortable? e <;> simp [firstAbort, he, ih]

/-- What is found is the first warning that cannot pass. -/
theorem firstAbort_eq_some {es before : List Event} {n : Notice}
    (h : firstAbort es = some (before, n)) :
    n.issue.isAbortable = true ∧ (∀ m ∈ notices before, m.issue.isAbortable = false) ∧
      ∃ after, notices es = notices before ++ n :: after := by
  induction es generalizing before with
  | nil => simp [firstAbort] at h
  | cons e es ih =>
      rw [firstAbort] at h
      cases he : abortable? e with
      | some m =>
          simp only [he, Option.some.injEq, Prod.mk.injEq] at h
          obtain ⟨rfl, rfl⟩ := h
          rw [abortable?, Option.filter_eq_some_iff] at he
          exact ⟨he.2, by simp [notices], notices es, by simp [notices, he.1]⟩
      | none =>
          simp only [he, Option.map_eq_some_iff, Prod.mk.injEq, Prod.exists] at h
          obtain ⟨rest, m, hrest, rfl, rfl⟩ := h
          obtain ⟨habort, hbefore, after, hafter⟩ := ih hrest
          rw [abortable?_eq_none_iff] at he
          cases hn : e.notice? with
          | none => exact ⟨habort, by simpa [notices, hn] using hbefore, after, by
              simpa [notices, hn] using hafter⟩
          | some k =>
              refine ⟨habort, ?_, after, by simpa [notices, hn] using hafter⟩
              intro m hm
              simp only [notices, List.filterMap_cons, hn, List.mem_cons] at hm
              rcases hm with rfl | hm
              · exact he m hn
              · exact hbefore m hm

theorem cut_eq_self {x : Outcome α} (h : firstAbort x.events = none) : x.cut = x := by
  rw [cut, h]

/-- Cutting a sequence of two steps cuts the first or else the second. -/
theorem cut_bind (x : Outcome α) (f : α → Outcome β) :
    (x >>= f).cut = x.cut >>= fun a => (f a).cut := by
  rcases x with ⟨es, n | a⟩
  · rw [bind_error]
    cases h : firstAbort es <;> simp [cut, h, bind_error]
  · rw [bind_ok]
    cases h : firstAbort es with
    | some x => simp [cut, h, firstAbort_append, bind_error]
    | none =>
        cases hf : firstAbort (f a).events <;>
          simp [cut, h, hf, firstAbort_append, bind_ok, List.append_assoc]

/-! ### Two modes side by side -/

/-- What a lenient and a strict step have to do with each other under a profile. -/
structure StrictTwin (p : Profile) (lenient strict : Outcome α) : Prop where
  eq_cut : strict = lenient.cut
  completes : ∃ a, lenient.result = .ok a
  rejects_iff : ∀ n ∈ notices lenient.events, n.issue.isAbortable = true ↔ p.Rejects n.issue

namespace StrictTwin

variable {p : Profile}

/-- A step without warnings is the same in both modes. -/
theorem of_notices_eq_nil {x : Outcome α} (hx : notices x.events = [])
    (h : ∃ a, x.result = .ok a) : StrictTwin p x x where
  eq_cut := (cut_eq_self ((firstAbort_eq_none_iff _).mpr (by simp [hx]))).symm
  completes := h
  rejects_iff := by simp [hx]

theorem pure (a : α) : StrictTwin p (pure a) (pure a) := of_notices_eq_nil rfl ⟨a, rfl⟩

theorem note {e : Event} (h : e.notice? = none) : StrictTwin p (note e) (note e) :=
  of_notices_eq_nil (by simp [Outcome.note, notices, h]) ⟨(), rfl⟩

/-- Warnings that do not end a conversion are recorded in both modes. -/
theorem warn {n : Notice} (h : n.issue.isAbortable = false) (hn : ¬ p.Rejects n.issue) :
    StrictTwin p (warn n) (warn n) where
  eq_cut := (cut_eq_self ((firstAbort_eq_none_iff _).mpr (by
    simpa [Outcome.warn, Outcome.note, notices, Event.notice?] using h))).symm
  completes := ⟨(), rfl⟩
  rejects_iff := by simpa [Outcome.warn, Outcome.note, notices, Event.notice?, h] using hn

theorem report {n : Notice} (h : n.issue.isAbortable = true ↔ p.Rejects n.issue) :
    StrictTwin p (report false n) (report true n) where
  eq_cut := by
    cases hn : n.issue.isAbortable <;>
      simp [Outcome.report, Outcome.warn, Outcome.note, abort, cut, firstAbort, abortable?,
        Event.notice?, Option.filter, hn]
  completes := ⟨(), by simp [Outcome.report, Outcome.warn, Outcome.note]⟩
  rejects_iff := by
    simpa [Outcome.report, Outcome.warn, Outcome.note, notices, Event.notice?] using h

theorem ite {c : Prop} [Decidable c] {x x' y y' : Outcome α} (hx : StrictTwin p x x')
    (hy : StrictTwin p y y') :
    StrictTwin p (if c then x else y) (if c then x' else y') := by
  split
  · exact hx
  · exact hy

theorem bind {x x' : Outcome α} {f f' : α → Outcome β} (hx : StrictTwin p x x')
    (hf : ∀ a, StrictTwin p (f a) (f' a)) : StrictTwin p (x >>= f) (x' >>= f') := by
  obtain ⟨a, ha⟩ := hx.completes
  have hbind : x >>= f = ⟨x.events ++ (f a).events, (f a).result⟩ := by
    rw [← bind_ok, ← ha]
  refine ⟨?_, ?_, ?_⟩
  · -- the second step runs in strict mode only when the first was not cut
    rw [hx.eq_cut, cut_bind]
    exact congrArg _ (funext fun a => (hf a).eq_cut)
  · rw [hbind]
    exact (hf a).completes
  · intro n hn
    rw [hbind, notices_append, List.mem_append] at hn
    rcases hn with hn | hn
    · exact hx.rejects_iff n hn
    · exact (hf a).rejects_iff n hn

end StrictTwin

end Outcome

namespace Site

open Outcome

/-- The place with strict mode switched on or off. -/
def withStrict (s : Site) (strict : Bool) : Site :=
  { s with profile := { s.profile with strictMode := strict } }

theorem withStrict_eq_self {s : Site} (h : s.profile.strictMode = false) :
    s.withStrict false = s := by
  rw [withStrict, ← h]

variable (s : Site)

theorem notices_inline (style : Inline.Style) (tokens : List Inline) :
    notices (Inline.outcome style tokens).events = [] := by
  refine List.filterMap_eq_nil_iff.mpr ?_
  intro e he
  obtain ⟨t, -, ht⟩ := List.mem_filterMap.mp he
  cases t <;> simp [Inline.event?] at ht
  · exact ht.2 ▸ rfl
  · exact ht ▸ rfl

theorem twin_inline (body : Option Token) :
    StrictTwin s.profile ((s.withStrict false).inline body) ((s.withStrict true).inline body) :=
  .bind (.of_notices_eq_nil (notices_inline _ _) ⟨_, rfl⟩) fun _ => .pure _

/-- Only headings that the preset forbids or that are too deep end a strict conversion. -/
theorem headingIssue?_isAbortable_iff {p : Profile} {level : Nat} {issue : Issue}
    (h : p.headingIssue? level = some issue) : issue.isAbortable = true ↔ p.Rejects issue := by
  unfold Profile.headingIssue? at h
  split at h
  · next hpreset =>
    obtain rfl := Option.some.inj h
    simpa [Issue.isAbortable, Profile.Rejects] using hpreset
  · next hpreset =>
    split at h
    · obtain rfl := Option.some.inj h
      simp [Issue.isAbortable, Profile.Rejects]
    · next huse =>
      split at h
      · next hlevel =>
        obtain rfl := Option.some.inj h
        have hallows : p.preset.allowsHeadings = true := by simpa using hpreset
        have hheadings : p.useHeadings = true := by simpa using huse
        simp [Issue.isAbortable, Profile.Rejects, hallows, hheadings, hlevel]
      · cases h

theorem twin_heading (opening : Token) (body : Option Token) :
    StrictTwin s.profile ((s.withStrict false).heading opening body)
      ((s.withStrict true).heading opening body) := by
  refine .bind (s.twin_inline body) fun content => ?_
  have hissue (strict : Bool) : (s.withStrict strict).profile.headingIssue? opening.headingLevel =
      s.profile.headingIssue? opening.headingLevel := rfl
  rw [hissue, hissue]
  cases h : s.profile.headingIssue? opening.headingLevel with
  | none => exact .pure _
  | some issue => exact .bind (.report (headingIssue?_isAbortable_iff h)) fun _ => .pure _

theorem twin_listItem (opening : Token) (blocks : List Node) :
    StrictTwin s.profile (Site.listItem opening blocks) (Site.listItem opening blocks) :=
  .ite (.bind (.warn rfl id) fun _ => .pure _) (.pure _)

theorem twin_list (opening : Token) (ordered : Bool) (items : List (Bool × Node)) :
    StrictTwin s.profile (Site.list opening ordered items) (Site.list opening ordered items) :=
  .ite (.bind (.note rfl) fun _ => .pure _) (.pure _)

theorem twin_quote (opening : Token) (inner : List Node) :
    StrictTwin s.profile ((s.withStrict false).quote opening inner)
      ((s.withStrict true).quote opening inner) :=
  .ite (.bind (.warn rfl id) fun _ => .pure _) (.pure _)

theorem twin_taskContent (body : Option Token) :
    StrictTwin s.profile ((s.withStrict false).taskContent body)
      ((s.withStrict true).taskContent body) :=
  .bind (.of_notices_eq_nil (notices_inline _ _) ⟨_, rfl⟩) fun _ => .pure _

theorem twin_leadContent (lead : Option (Option Token)) :
    StrictTwin s.profile ((s.withStrict false).leadContent lead)
      ((s.withStrict true).leadContent lead) := by
  cases lead with
  | none => exact .pure _
  | some body => exact s.twin_taskContent body

theorem twin_taskItem (opening : Token) (content : List Node × Bool) (extra : List Node) :
    StrictTwin s.profile (Site.taskItem opening content extra)
      (Site.taskItem opening content extra) :=
  .ite (.bind (.warn rfl id) fun _ => .pure _) (.pure _)

theorem twin_tableParts (parts : List (TablePart (Option Token))) :
    StrictTwin s.profile ((s.withStrict false).tableParts parts)
      ((s.withStrict true).tableParts parts) := by
  induction parts with
  | nil => exact .pure _
  | cons part rest ih =>
      cases part with
      | cell header body => exact .bind (s.twin_inline body) fun _ => .bind ih fun _ => .pure _
      | _ => exact .bind ih fun _ => .pure _

theorem twin_table (opening : Token) (parts : List (TablePart (Option Token))) :
    StrictTwin s.profile ((s.withStrict false).table opening parts)
      ((s.withStrict true).table opening parts) := by
  refine .bind (s.twin_tableParts parts) fun _ => ?_
  exact .ite (.bind (.warn rfl id) fun _ => .pure _) (.pure _)

theorem twin_rule (t : Token) :
    StrictTwin s.profile ((s.withStrict false).rule t) ((s.withStrict true).rule t) :=
  .bind (.report (by simp [Issue.isAbortable, Profile.Rejects])) fun _ => .pure _

mutual

theorem twin_block : ∀ b : Block,
    StrictTwin s.profile ((s.withStrict false).block b) ((s.withStrict true).block b)
  | .paragraph _ body => .bind (s.twin_inline body) fun _ => .pure _
  | .heading opening body => s.twin_heading opening body
  | .loose body => .bind (s.twin_inline (some body)) fun _ => .pure _
  | .code _ => .pure _
  | .rule t => s.twin_rule t
  | .quote opening children => .bind (twin_blocks children) fun _ => s.twin_quote opening _
  | .list opening ordered is => .bind (twin_items is) fun _ => s.twin_list opening ordered _
  | .table opening parts => s.twin_table opening parts
  | .stray _ => .bind (.note rfl) fun _ => .pure _

theorem twin_blocks : ∀ bs : List Block,
    StrictTwin s.profile ((s.withStrict false).blocks bs) ((s.withStrict true).blocks bs)
  | [] => .pure _
  | b :: bs => .bind (twin_block b) fun _ => .bind (twin_blocks bs) fun _ => .pure _

theorem twin_item : ∀ i : Item,
    StrictTwin s.profile ((s.withStrict false).item i) ((s.withStrict true).item i)
  | ⟨opening, false, children⟩ =>
    .bind (twin_blocks children) fun _ => .bind (s.twin_listItem opening _) fun _ => .pure _
  | ⟨opening, true, []⟩ =>
    .bind (.pure _) fun _ => .bind (s.twin_taskItem opening _ _) fun _ => .pure _
  | ⟨opening, true, b :: rest⟩ => by
    have hothers := Block.lead_snd (P := fun bs =>
      StrictTwin s.profile ((s.withStrict false).blocks bs) ((s.withStrict true).blocks bs))
      (twin_blocks (b :: rest)) (twin_blocks rest)
    rw [item_task, item_task]
    exact .bind (s.twin_leadContent _) fun _ => .bind hothers fun _ =>
      .bind (s.twin_taskItem opening _ _) fun _ => .pure _

theorem twin_items : ∀ is : List Item,
    StrictTwin s.profile ((s.withStrict false).items is) ((s.withStrict true).items is)
  | [] => .pure _
  | i :: is => .bind (twin_item i) fun _ => .bind (twin_items is) fun _ => .pure _

end

/-- A lenient conversion has a result. The strict conversion of the same tokens is the same when no
warning is of a sort that strict mode rejects. Otherwise it ends at the first such warning, with the
warnings before it in its log, and its error carries the place and the text of that warning and its
message, without what is said there about bold text. -/
theorem resolve_strict_eq_cut (s : Site) (tokens : List Token) :
    let lenient := (s.withStrict false).resolve tokens
    let strict := (s.withStrict true).resolve tokens
    (∃ nodes, lenient.result = .ok nodes) ∧
      ((∀ n ∈ notices lenient.events, ¬ s.profile.Rejects n.issue) ∧ strict = lenient ∨
        ∃ before n after, notices lenient.events = before ++ n :: after ∧
          (∀ m ∈ before, ¬ s.profile.Rejects m.issue) ∧ s.profile.Rejects n.issue ∧
          strict.result = .error n ∧ notices strict.events = before ∧
          n.rejection.kind = .unsupportedFeature ∧ n.rejection.line = n.warning.line ∧
          n.rejection.sourceText = n.warning.sourceText ∧
          n.warning.message = n.rejection.message ++
            if n.issue.isHeading then "; converting to bold text" else "") := by
  intro lenient strict
  have htwin : StrictTwin s.profile lenient strict := s.twin_blocks (Outline.ofTokens tokens)
  refine ⟨htwin.completes, ?_⟩
  have hpass (n) (hn : n ∈ notices lenient.events) :
      ¬ s.profile.Rejects n.issue ↔ n.issue.isAbortable = false := by
    rw [← htwin.rejects_iff n hn, Bool.not_eq_true]
  cases h : firstAbort lenient.events with
  | none =>
      refine .inl ⟨fun n hn => ?_, htwin.eq_cut.trans (cut_eq_self h)⟩
      exact (hpass n hn).mpr ((firstAbort_eq_none_iff _).mp h n hn)
  | some first =>
      obtain ⟨before, n⟩ := first
      obtain ⟨habort, hbefore, after, hafter⟩ := firstAbort_eq_some h
      have hstrict : strict = ⟨before ++ [.aborting n], .error n⟩ := by
        rw [htwin.eq_cut, cut, h]
      refine .inr ⟨notices before, n, after, hafter, fun m hm => ?_, ?_, ?_, ?_, rfl, rfl, rfl, ?_⟩
      · exact (hpass m (by simp [hafter, hm])).mpr (hbefore m hm)
      · exact (htwin.rejects_iff n (by simp [hafter])).mp habort
      · rw [hstrict]
      · rw [hstrict, notices_append]
        exact List.append_nil _
      · cases hheading : n.issue.isHeading <;>
          simp [Notice.warning, Notice.rejection, Issue.message, hheading]

end Site

end MarkdownAdf
