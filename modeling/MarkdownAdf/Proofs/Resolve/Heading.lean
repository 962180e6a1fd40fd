import MarkdownAdf.Proofs.Resolve.Leaves
import MarkdownAdf.Proofs.Resolve.Marks

/-!
# Headings in bold

A heading that its place cannot hold becomes a paragraph in bold. Read symbol by symbol, its content
is that of the heading with a strong mark behind the marks of each character that has none; where a
strong mark stands already it keeps its place. Texts that have become alike are joined.
-/

namespace MarkdownAdf

/-! ### Strong symbols -/

/-- Marks with a strong one: behind the others, unless there is one among them. -/
def Mark.withStrong (ms : List Mark) : List Mark :=
  if ms.any fun m => m.type == MarkKind.strong.name then ms else ms ++ [plain .strong]

/-- A symbol in bold. Breaks are not shown in bold. -/
def Node.Symbol.strengthen : Symbol → Symbol
  | .char c marks => .char c (Mark.withStrong marks)
  | .hardBreak => .hardBreak

namespace Node

/-- The number of strong marks of a text. -/
def strongMarks (n : Node) : Nat := (n.marks.map Mark.type).count MarkKind.strong.name

theorem marks_strengthen {n : Node} (h : n.isText = true) :
    n.strengthen.marks = Mark.withStrong n.marks := by
  rw [strengthen, Mark.withStrong, h, Bool.true_and, ← hasMark]
  cases n.hasMark MarkKind.strong.name <;> rfl

theorem symbols_strengthen (n : Node) : n.strengthen.symbols = n.symbols.map Symbol.strengthen := by
  rw [symbols, symbols, isText_strengthen]
  split
  · next htext =>
    rw [ownText_strengthen, marks_strengthen htext, Symbol.ofText, Symbol.ofText, List.map_map]
    rfl
  · rfl

theorem isBuilt_strengthen {n : Node} (h : ∀ m ∈ n.marks, m.IsBuilt) :
    ∀ m ∈ n.strengthen.marks, m.IsBuilt := by
  rw [strengthen]
  split
  · exact List.forall_mem_append.mpr ⟨h, List.forall_mem_singleton.mpr (.plain .strong)⟩
  · exact h

/-- Content in bold has the symbols of the content, each of them in bold. -/
theorem symbols_embolden {ns : List Node} (h : ∀ n ∈ ns, ∀ m ∈ n.marks, m.IsBuilt) :
    (embolden ns).flatMap symbols = (ns.flatMap symbols).map Symbol.strengthen := by
  cases ns with
  | nil => rfl
  | cons n ns =>
      have hbuilt : ∀ m ∈ (n :: ns).map strengthen, ∀ x ∈ m.marks, x.IsBuilt :=
        List.forall_mem_map.mpr fun m hm => isBuilt_strengthen (h m hm)
      have hbold : embolden (n :: ns) = mergeTexts ((n :: ns).map strengthen) := rfl
      rw [hbold, symbols_mergeTexts hbuilt, List.flatMap_map, List.map_flatMap]
      exact congrArg (List.flatMap · (n :: ns)) (funext symbols_strengthen)

theorem strongMarks_strengthen {n : Node} (htext : n.isText = true) (h : n.DistinctMarks) :
    n.strengthen.strongMarks = 1 := by
  have hmem : MarkKind.strong.name ∈ n.strengthen.marks.map Mark.type := by
    rw [marks_strengthen htext, Mark.withStrong]
    split
    · next hany => simpa using hany
    · simp [Mark.plain]
  exact List.count_eq_one_of_mem h.strengthen hmem

theorem strongMarks_embolden {ns : List Node} (h : ∀ n ∈ ns, n.isText = true → n.DistinctMarks) :
    ∀ n ∈ embolden ns, n.isText = true → n.strongMarks = 1 := by
  cases ns with
  | nil => exact List.forall_mem_singleton.mpr fun _ => rfl
  | cons n ns =>
      -- a joined text has the marks of the first text
      refine forall_mem_mergeTexts (fun a b ha _ => ha) ?_
      refine List.forall_mem_map.mpr fun a ha htext => ?_
      rw [isText_strengthen] at htext
      exact strongMarks_strengthen htext (h a ha htext)

end Node

/-! ### Headings -/

/-- Whether headings of a level become text in bold: they are not kept, and this does not end the
conversion. In strict mode it ends it unless headings are allowed but not in use. -/
structure Profile.Downgrades (p : Profile) (level : Nat) : Prop where
  notKept : ¬ (p.preset.allowsHeadings = true ∧ p.useHeadings = true ∧ level ≤ p.maxHeadingLevel)
  goesOn : p.strictMode = true → p.preset.allowsHeadings = true ∧ p.useHeadings = false

/-- Headings of a level are downgraded when there is an issue with them that is reported. -/
theorem Profile.downgrades_iff {p : Profile} {level : Nat} :
    p.Downgrades level ↔
      ∃ issue, p.headingIssue? level = some issue ∧
        (p.strictMode && issue.isAbortable) = false := by
  have hfields : p.Downgrades level ↔
      ¬ (p.preset.allowsHeadings = true ∧ p.useHeadings = true ∧ level ≤ p.maxHeadingLevel) ∧
        (p.strictMode = true → p.preset.allowsHeadings = true ∧ p.useHeadings = false) :=
    ⟨fun h => ⟨h.notKept, h.goesOn⟩, fun h => ⟨h.1, h.2⟩⟩
  rw [hfields, headingIssue?]
  cases p.preset.allowsHeadings with
  | false => simp [Issue.isAbortable]
  | true =>
      cases p.useHeadings with
      | false => simp [Issue.isAbortable]
      | true =>
          by_cases hlevel : p.maxHeadingLevel < level
          · simp [hlevel, Issue.isAbortable]
          · simp [hlevel]

namespace Site

/-- The inline content of a heading, before anything is put in bold. -/
def shown (s : Site) (body : Option Token) : List Node :=
  (Inline.resolve s.style ((body.map Token.inlines).getD [])).nodes

theorem inline_eq (s : Site) (body : Option Token) :
    ∃ es, notices es = [] ∧ s.inline body = ⟨es, .ok (s.shown body)⟩ := by
  refine ⟨_, notices_inline s.style ((body.map Token.inlines).getD []), ?_⟩
  rw [inline, Inline.outcome, Outcome.bind_ok]
  exact congrArg (Outcome.mk · _) (List.append_nil _)

/-- A heading that is downgraded records one warning and becomes a paragraph in bold. -/
theorem heading_of_downgrades {s : Site} {opening : Token}
    (h : s.profile.Downgrades opening.headingLevel) (body : Option Token) :
    ∃ es issue, notices es = [] ∧ issue.isHeading = true ∧
      s.heading opening body =
        ⟨es ++ [.warned ⟨issue, opening.line, opening.headingSource body⟩],
          .ok [Node.paragraph (Node.embolden (s.shown body))]⟩ := by
  obtain ⟨issue, hissue, hgoes⟩ := Profile.downgrades_iff.mp h
  obtain ⟨es, hes, hinline⟩ := s.inline_eq body
  refine ⟨es, issue, hes, headingIssue?_isHeading hissue, ?_⟩
  rw [heading, hinline, Outcome.bind_ok]
  simp only [hissue, Outcome.report, hgoes]
  rfl

/-- Any other heading is kept or ends the conversion. -/
theorem heading_of_not_downgrades {s : Site} {opening : Token}
    (h : ¬ s.profile.Downgrades opening.headingLevel) (body : Option Token) (content : List Node) :
    (s.heading opening body).result ≠ .ok [Node.paragraph content] := by
  obtain ⟨es, -, hinline⟩ := s.inline_eq body
  rw [heading, hinline, Outcome.bind_ok]
  cases hissue : s.profile.headingIssue? opening.headingLevel with
  | none =>
      intro hresult
      have hnode := List.singleton_inj.mp (Except.ok.inj hresult)
      have hname : NodeKind.heading.name = NodeKind.paragraph.name := congrArg Node.type hnode
      exact absurd hname (by decide)
  | some issue =>
      have hstop : (s.profile.strictMode && issue.isAbortable) = true := by
        by_contra hgoes
        exact h (Profile.downgrades_iff.mpr ⟨issue, hissue, by simpa using hgoes⟩)
      simp only [Outcome.report, hstop]
      intro hresult
      cases hresult

/-- The content of a heading carries only marks that are built. -/
theorem isBuilt_shown (s : Site) (body : Option Token) :
    ∀ n ∈ s.shown body, ∀ m ∈ n.marks, m.IsBuilt :=
  Node.forall_mem_mergeTexts (fun _ _ ha _ => ha)
    (Inline.Agrees.isBuilt_pieces ⟨.empty, rfl⟩ s.style _)

/-- Joining the texts of a heading changes none of its symbols. -/
theorem symbols_shown (s : Site) (body : Option Token) :
    (s.shown body).flatMap Node.symbols =
      (Inline.pieces s.style {} ((body.map Token.inlines).getD [])).flatMap Node.symbols :=
  Node.symbols_mergeTexts (Inline.Agrees.isBuilt_pieces ⟨.empty, rfl⟩ s.style _)

theorem canonical_shown (s : Site) (body : Option Token) : Node.Canonical (s.shown body) :=
  Inline.canonical_resolve s.style _

/-- A heading becomes a paragraph exactly where its level is downgraded. The content of the
paragraph then has the symbols of the content of the heading, each in bold, every text carries one
strong mark, and the content is canonical; where the heading shows nothing it is an empty text in
bold. One warning is recorded, of lost formatting. -/
theorem heading_downgraded (s : Site) (opening : Token) (body : Option Token) :
    let outcome := s.heading opening body
    ((∃ content, outcome.result = .ok [Node.paragraph content]) ↔
      s.profile.Downgrades opening.headingLevel) ∧
    ∀ content, outcome.result = .ok [Node.paragraph content] →
      content.flatMap Node.symbols =
        ((s.shown body).flatMap Node.symbols).map Node.Symbol.strengthen ∧
      (∀ n ∈ content, n.isText = true → n.strongMarks = 1) ∧
      (s.shown body ≠ [] → Node.Canonical content) ∧
      (s.shown body = [] → content = [Node.run "" [Mark.plain .strong]]) ∧
      ∃ n, notices outcome.events = [n] ∧ n.warning.kind = .lossyConversion := by
  intro outcome
  by_cases h : s.profile.Downgrades opening.headingLevel
  · obtain ⟨es, issue, hes, hheading, houtcome⟩ := heading_of_downgrades h body
    change outcome = _ at houtcome
    rw [houtcome]
    refine ⟨iff_of_true ⟨_, rfl⟩ h, fun content hresult => ?_⟩
    have hcontent : content = Node.embolden (s.shown body) :=
      congrArg Node.content (List.singleton_inj.mp (Except.ok.inj hresult)).symm
    have hcanonical := s.canonical_shown body
    refine ⟨?_, ?_, fun hne => ?_, fun hempty => ?_, ?_⟩
    · rw [hcontent, Node.symbols_embolden (s.isBuilt_shown body)]
    · rw [hcontent]
      exact Node.strongMarks_embolden hcanonical.distinct
    · rw [hcontent]
      exact hcanonical.embolden hne
    · rw [hcontent, hempty]
      rfl
    · refine ⟨⟨issue, opening.line, opening.headingSource body⟩, ?_,
        Issue.kind_of_isHeading hheading⟩
      rw [Outcome.notices_append, hes]
      rfl
  · have hother := heading_of_not_downgrades h body
    exact ⟨iff_of_false (fun ⟨content, hresult⟩ => hother content hresult) h,
      fun content hresult => absurd hresult (hother content)⟩

/-- Bold text before plain text, and bold text behind emphasis: in bold both pairs are alike, the
second with its marks in the order of the emphasis. -/
theorem heading_downgraded_mixedRuns :
    let s : Site := { profile := { preset := .comment } }
    let opening : Token := { kind := .headingOpen, tag := "h2" }
    let body : Token := { kind := .inline, children := some [
      .openMark .strong, .text "a", .closeMark .strong, .text "b", .hardBreak, .openMark .em,
      .text "c", .openMark .strong, .text "d"] }
    ∃ content, (s.heading opening (some body)).result = .ok [Node.paragraph content] ∧
      content.flatMap Node.symbols =
        [.char 'a' [Mark.plain .strong], .char 'b' [Mark.plain .strong], .hardBreak,
          .char 'c' [Mark.plain .em, Mark.plain .strong],
          .char 'd' [Mark.plain .em, Mark.plain .strong]] ∧
      Node.Canonical content ∧ (∀ n ∈ content, n.isText = true → n.strongMarks = 1) ∧
      ∃ n, notices (s.heading opening (some body)).events = [n] ∧
        n.warning.kind = .lossyConversion := by
  intro s opening body
  have hsymbols : (s.shown (some body)).flatMap Node.symbols =
      [.char 'a' [Mark.plain .strong], .char 'b' [], .hardBreak, .char 'c' [Mark.plain .em],
        .char 'd' [Mark.plain .em, Mark.plain .strong]] := by
    rw [s.symbols_shown (some body)]
    decide
  have hshown : s.shown (some body) ≠ [] := by
    intro h
    rw [h] at hsymbols
    cases hsymbols
  obtain ⟨hresult, hcontent⟩ := heading_downgraded s opening (some body)
  obtain ⟨content, h⟩ := hresult.mpr ⟨by decide, by decide⟩
  obtain ⟨hbold, hstrong, hcanonical, -, hnotice⟩ := hcontent content h
  exact ⟨content, h, hbold.trans (by rw [hsymbols]; decide), hcanonical hshown, hstrong, hnotice⟩

end Site

end MarkdownAdf
