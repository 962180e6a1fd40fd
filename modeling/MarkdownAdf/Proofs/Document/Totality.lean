import MarkdownAdf.Proofs.Outline.Walk
import MarkdownAdf.Proofs.Resolve.Strict

/-!
# Conversions end

Whatever a tokenizer does, a conversion of a text comes to an end. It ends without a document only
when the tokenizer fails or when strict mode rejects a construct.
-/

namespace MarkdownAdf

/-- Without strict mode every row of tokens has nodes. -/
theorem Site.resolve_completes (s : Site) (tokens : List Token)
    (h : s.profile.strictMode = false) : ∃ nodes, (s.resolve tokens).result = .ok nodes := by
  have htwin := s.twin_blocks (Outline.ofTokens tokens)
  rw [withStrict_eq_self h] at htwin
  exact htwin.completes

namespace Profile

open Outline.Walk

/-- Tokens are turned into a document, or strict mode rejects one of them. -/
theorem convertTokens_ending (p : Profile) (markdown : String) (tokens : List Token) :
    (∃ c, (p.convertTokens markdown tokens).result = .ok c) ∨
      p.strictMode = true ∧ ∃ n : Notice,
        (p.convertTokens markdown tokens).result = .error (.rejected n.rejection) := by
  rw [convertTokens]
  cases hnodes : ((Site.mk p (Text.lines markdown)).resolve tokens).result with
  | ok nodes => exact .inl ⟨_, rfl⟩
  | error n =>
      refine .inr ⟨?_, n, rfl⟩
      cases hstrict : p.strictMode with
      | true => rfl
      | false =>
          have hcompletes := Site.resolve_completes ⟨p, Text.lines markdown⟩ tokens hstrict
          simp [hnodes] at hcompletes

/-- A conversion of a text ends with a document, with the failure of the tokenizer or, in strict
mode, with the rejection of a construct. -/
theorem convert_ending (p : Profile) (id : Nat → String)
    (tokenize : String → Except String (List Token)) (markdown : String) :
    (∃ c, (p.convert id tokenize (.str markdown)).result = .ok c) ∧
        (Text.isBlankText markdown = true ∨ ∃ tokens, tokenize markdown = .ok tokens) ∨
      (∃ reason, (p.convert id tokenize (.str markdown)).result =
          .error (.rejected (Warning.untokenized reason)) ∧
        Text.isBlankText markdown = false ∧ tokenize markdown = .error reason) ∨
      ∃ n : Notice, (p.convert id tokenize (.str markdown)).result =
          .error (.rejected n.rejection) ∧
        p.strictMode = true ∧ ∃ tokens, tokenize markdown = .ok tokens := by
  rw [convert, convertText]
  by_cases hblank : Text.isBlankText markdown = true
  · rw [if_pos hblank]
    exact .inl ⟨⟨_, rfl⟩, .inl hblank⟩
  · rw [if_neg hblank]
    cases htokens : tokenize markdown with
    | error reason =>
        exact .inr (.inl ⟨reason, rfl, eq_false_of_ne_true hblank, rfl⟩)
    | ok tokens =>
        rcases p.convertTokens_ending markdown tokens with ⟨c, hc⟩ | ⟨hstrict, n, hn⟩
        · exact .inl ⟨⟨_, by rw [hc]; rfl⟩, .inr ⟨tokens, rfl⟩⟩
        · exact .inr (.inr ⟨n, by rw [hn]; rfl, hstrict, tokens, rfl⟩)

/-- Every call of the walk from a place within the tokens ends behind that place, so every row of
tokens has an outline and is resolved. A conversion of a text, whatever the tokenizer gives, ends
with a document or with a rejection. The rejection is one of invalid syntax exactly when the text is
not blank and the tokenizer fails, and one of an unsupported feature only in strict mode. -/
theorem convert_total :
    (∀ (tokens : List Token) (i : Nat) (hi : i < tokens.length),
      (∀ closing, Advances i (blocks tokens closing [] i)) ∧
      (∀ ordered, Advances i (list tokens ordered i hi)) ∧
      Advances i (listItem tokens i hi) ∧ Advances i (taskItem tokens i hi) ∧
      Advances i (quote tokens i hi) ∧ i < (table tokens i).2 ∧
      ∀ closing, i < (span tokens closing i).2) ∧
    (∀ (s : Site) (tokens : List Token), ∃ outline j,
      blocks tokens none [] 0 = some (outline, j) ∧ s.resolve tokens = s.blocks outline) ∧
    ∀ (p : Profile) (id : Nat → String) (tokenize : String → Except String (List Token))
      (markdown : String),
      let result := (p.convert id tokenize (.str markdown)).result
      ((∃ c, result = .ok c) ∨ ∃ w, result = .error (.rejected w) ∧
        (w.kind = .invalidSyntax ∨ w.kind = .unsupportedFeature ∧ p.strictMode = true)) ∧
      ((∃ w, result = .error (.rejected w) ∧ w.kind = .invalidSyntax) ↔
        Text.isBlankText markdown = false ∧ ∃ reason, tokenize markdown = .error reason) := by
  refine ⟨fun tokens i hi => ?_, fun s tokens => ?_, fun p id tokenize markdown => ?_⟩
  · exact ⟨fun closing => blocks_advances closing [] hi, fun ordered => list_advances ordered hi,
      listItem_advances hi, taskItem_advances hi, quote_advances hi, lt_table i,
      fun closing => lt_span tokens closing i⟩
  · obtain ⟨j, hj⟩ := blocks_eq_ofTokens tokens
    exact ⟨_, j, hj, rfl⟩
  · intro result
    rcases p.convert_ending id tokenize markdown with
      ⟨⟨c, hc⟩, htokens⟩ | ⟨reason, hw, hblank, herror⟩ | ⟨n, hn, hstrict, tokens, htokens⟩
    · refine ⟨.inl ⟨c, hc⟩, ?_, ?_⟩
      · rintro ⟨w, hw, -⟩
        cases hc.symm.trans hw
      · rintro ⟨hblank, reason, herror⟩
        rcases htokens with htrue | ⟨tokens, hok⟩
        · cases htrue.symm.trans hblank
        · cases hok.symm.trans herror
    · exact ⟨.inr ⟨_, hw, .inl rfl⟩, fun _ => ⟨hblank, reason, herror⟩, fun _ => ⟨_, hw, rfl⟩⟩
    · refine ⟨.inr ⟨_, hn, .inr ⟨rfl, hstrict⟩⟩, ?_, ?_⟩
      · rintro ⟨w, hw, hkind⟩
        obtain rfl : n.rejection = w := by simpa using hn.symm.trans hw
        cases hkind
      · rintro ⟨-, reason, herror⟩
        cases htokens.symm.trans herror

/-- The outer of two lists whose items are left open ends behind all tokens. -/
theorem advances_openLists :
    let tokens : List Token :=
      [{ kind := .listOpen false }, { kind := .itemOpen }, { kind := .listOpen true },
        { kind := .itemOpen }]
    ∃ hopen : 0 < tokens.length, Advances 0 (list tokens false 0 hopen) := by
  intro tokens
  have hopen : 0 < tokens.length := by decide
  exact ⟨hopen, (convert_total.1 tokens 0 hopen).2.1 false⟩

end Profile

end MarkdownAdf
