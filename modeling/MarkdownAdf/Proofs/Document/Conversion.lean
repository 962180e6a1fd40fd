import MarkdownAdf.Converter

/-!
# Conversions that return

What a conversion that returns a document has done on the way to it.
-/

namespace MarkdownAdf

/-- A conversion that returns was given a text of blanks, or it resolved the tokens of its text. -/
theorem Profile.convert_eq_ok {p : Profile} {id : Nat → String}
    {tokenize : String → Except String (List Token)} {markdown : String} {c : Conversion}
    (h : (p.convert id tokenize (.str markdown)).result = .ok c) :
    (Text.isBlankText markdown = true ∧ c = ⟨Document.blank.label id, []⟩) ∨
      ∃ tokens nodes, Text.isBlankText markdown = false ∧ tokenize markdown = .ok tokens ∧
        ((Site.mk p (Text.lines markdown)).resolve tokens).result = .ok nodes ∧
        c = ⟨Document.label id { content := Node.orParagraph nodes },
          warnings ((Site.mk p (Text.lines markdown)).resolve tokens).events⟩ := by
  rw [convert, convertText] at h
  split at h
  · next hblank => exact .inl ⟨hblank, (Except.ok.inj h).symm⟩
  · next hblank =>
    refine .inr ?_
    cases htokens : tokenize markdown with
    | error reason => simp [htokens, Except.map] at h
    | ok tokens =>
        simp only [htokens, convertTokens] at h
        cases hnodes : ((Site.mk p (Text.lines markdown)).resolve tokens).result with
        | error n => simp [hnodes, Except.map] at h
        | ok nodes =>
            simp only [hnodes] at h
            exact ⟨tokens, nodes, by simpa using hblank, rfl, hnodes, (Except.ok.inj h).symm⟩

/-- A conversion of a text that is rejected could not tokenize it, or a notice ended it. -/
theorem Profile.convert_eq_rejected {p : Profile} {id : Nat → String}
    {tokenize : String → Except String (List Token)} {markdown : String} {w : Warning}
    (h : (p.convert id tokenize (.str markdown)).result = .error (.rejected w)) :
    (∃ reason, tokenize markdown = .error reason ∧ w = Warning.untokenized reason) ∨
      ∃ tokens n, tokenize markdown = .ok tokens ∧
        ((Site.mk p (Text.lines markdown)).resolve tokens).result = .error n ∧ w = n.rejection := by
  rw [convert, convertText] at h
  split at h
  · cases h
  · cases htokens : tokenize markdown with
    | error reason =>
        simp only [htokens] at h
        cases h
        exact .inl ⟨reason, rfl, rfl⟩
    | ok tokens =>
        simp only [htokens, convertTokens] at h
        cases hnodes : ((Site.mk p (Text.lines markdown)).resolve tokens).result with
        | ok nodes => simp [hnodes, Except.map] at h
        | error n =>
            simp only [hnodes] at h
            cases h
            exact .inr ⟨tokens, n, rfl, hnodes, rfl⟩

end MarkdownAdf
