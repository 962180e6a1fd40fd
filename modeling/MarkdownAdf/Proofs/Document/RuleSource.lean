import MarkdownAdf.Proofs.Document.Conversion
import MarkdownAdf.Proofs.Resolve.Leaves
import MarkdownAdf.Proofs.Text.Lines

/-!
# The source of rules

The warning about a rule, or the error that it causes in strict mode, quotes the lines that the rule
was read from. The line numbers are the tokenizer's, and they are looked up in the lines of the
text. Where the two agree the quoted lines are those that the tokenizer meant. They do not agree
behind a form feed or another character at which only the text is cut.
-/

namespace MarkdownAdf

/-- The token of a rule. -/
def Block.rule? : Block → Option Token
  | .rule t => some t
  | _ => none

/-- The tokens of an outline that are converted as rules, in their order. -/
def Outline.rules (tokens : List Token) : List Token :=
  (Block.leavesAll (ofTokens tokens)).filterMap Block.rule?

namespace Markdown

/-- The lines of a text from one line to another as the tokenizer numbers them, without the blanks
around each, if anything is left of them. -/
def quotedLines (markdown : String) (start stop : Nat) : Option String :=
  let chosen := ((sourceLines markdown).take stop).drop start
  nonempty? (some ("\n".intercalate (chosen.map fun l => Text.trim (String.ofList l))))

/-- No line of a text before a certain one holds a character at which only `Text.lines` ends a
line. -/
def PlainBefore (markdown : String) (stop : Nat) : Prop :=
  stop ≤ (sourceLines markdown).length ∧
    ∀ l ∈ (sourceLines markdown).take stop, ∀ c ∈ l, Text.endsLine c = false

end Markdown

/-- A token that was read from lines of a text, of which none up to its own holds a character at
which only `Text.lines` ends a line. -/
def Token.IsPlain (t : Token) (markdown : String) : Prop :=
  ∀ span, t.span = some span →
    0 ≤ span.start ∧ 0 ≤ span.stop ∧ Markdown.PlainBefore markdown span.stop.toNat

/-- The lines from which a token was read, as the tokenizer numbers them. -/
def Token.quoted (t : Token) (markdown : String) : Option String :=
  t.span.bind fun span => Markdown.quotedLines markdown span.start.toNat span.stop.toNat

/-- The lines that are looked up for a token are those that the tokenizer meant. -/
theorem Token.sourceText_lines {t : Token} {markdown : String} (h : t.IsPlain markdown) :
    t.sourceText (Text.lines markdown) = t.quoted markdown := by
  cases hspan : t.span with
  | none => simp only [sourceText, quoted, hspan, Option.bind_none]
  | some span =>
      obtain ⟨hstart, hstop, hlength, hplain⟩ := h span hspan
      have hindex {i : Int} (hi : 0 ≤ i) (length : Nat) : lineIndex length i = i.toNat := if_pos hi
      simp only [sourceText, quoted, hspan, Option.bind_some, hindex hstart, hindex hstop,
        Text.take_lines markdown hlength hplain]
      rw [Markdown.quotedLines, ← List.map_drop, List.map_map]
      rfl

/-- Of the issues that end a strict conversion, only rules have the reason against rules. -/
theorem Issue.eq_ruleUnsupported {i : Issue} (habort : i.isAbortable = true)
    (h : i.reason = ruleUnsupported.reason) : i = .ruleUnsupported := by
  have hne {start middle rest : String} (hlong : 2 ≤ start.toList.length)
      (hstart : start.toList.take 2 ≠ ruleUnsupported.reason.toList.take 2) :
      start ++ middle ++ rest ≠ ruleUnsupported.reason := fun heq => by
    rw [← heq, String.append_assoc, String.toList_append,
      List.take_append_of_le_length hlong] at hstart
    exact hstart rfl
  cases i with
  | ruleUnsupported => rfl
  | headingUnsupported p => exact absurd h (hne (by decide +kernel) (by decide +kernel))
  | headingTooDeep level limit =>
      have hlevel := String.append_assoc.symm.trans h
      exact absurd hlevel (hne (by decide +kernel) (by decide +kernel))
  | _ => cases habort

namespace Site

open Outcome

variable (s : Site)

/-- The notice about a rule. -/
def ruleNotice (t : Token) : Notice := ⟨.ruleUnsupported, t.line, t.sourceText s.lines⟩

theorem filter_leafNotice? (b : Block) :
    (s.leafNotice? b).filter (fun n => n.issue = .ruleUnsupported) =
      (Block.rule? b).map s.ruleNotice := by
  cases b with
  | rule t => rfl
  | heading opening body =>
      rw [leafNotice?]
      cases h : s.profile.headingIssue? opening.headingLevel with
      | none => rfl
      | some issue =>
          have hheading := headingIssue?_isHeading h
          cases issue <;> first | rfl | cases hheading
  | table opening parts =>
      rw [leafNotice?]
      split <;> rfl
  | _ => rfl

/-- The notices about rules are those of the tokens that are converted as rules. -/
theorem filter_leafNotices (tokens : List Token) :
    (s.leafNotices (Outline.ofTokens tokens)).filter (fun n => n.issue = .ruleUnsupported) =
      (Outline.rules tokens).map s.ruleNotice := by
  rw [leafNotices, List.filter_filterMap, Outline.rules, List.map_filterMap]
  exact congrArg (fun f => List.filterMap f _) (funext s.filter_leafNotice?)

/-- A conversion that returns has recorded a notice for every rule. -/
theorem filter_notices_resolve {tokens : List Token} {nodes : List Node}
    (h : (s.resolve tokens).result = .ok nodes) :
    (notices (s.resolve tokens).events).filter (fun n => n.issue = .ruleUnsupported) =
      (Outline.rules tokens).map s.ruleNotice := by
  have hrecords := s.records_blocks (Outline.ofTokens tokens)
  have hrule (n : Notice) (hn : decide (n.issue = .ruleUnsupported) = true) :
      n.issue.isAboutLeaf = true := of_decide_eq_true hn ▸ rfl
  rw [← s.filter_leafNotices, ← hrecords.takeWhile_eq_self h]
  exact hrecords.filter_notices hrule

/-- A conversion that a rule ends is ended by the first one. -/
theorem head?_ruleNotice {tokens : List Token} {n : Notice}
    (h : (s.resolve tokens).result = .error n)
    (hreason : n.issue.reason = Issue.ruleUnsupported.reason) :
    (Outline.rules tokens).head?.map s.ruleNotice = some n := by
  have hrecords := s.records_blocks (Outline.ofTokens tokens)
  have hfound : (s.leafNotices (Outline.ofTokens tokens)).find? s.rejects = some n := by
    rw [← hrecords.ending, abort?, show (s.blocks _).result = .error n from h]
  obtain ⟨hrejects, before, after, hsplit, hbefore⟩ := List.find?_eq_some_iff_append.mp hfound
  obtain ⟨hstrict, habort⟩ := Bool.and_eq_true_iff.mp hrejects
  have hn := Issue.eq_ruleUnsupported habort hreason
  have hnone : before.filter (fun n => n.issue = .ruleUnsupported) = [] := by
    refine List.filter_eq_nil_iff.mpr fun m hm hrule => ?_
    have hpass := hbefore m hm
    simp [rejects, hstrict, of_decide_eq_true hrule, Issue.isAbortable] at hpass
  rw [← List.head?_map, ← s.filter_leafNotices, hsplit, List.filter_append, hnone,
    List.nil_append, List.filter_cons_of_pos (by simpa using hn), List.head?_cons]

end Site

namespace Profile

variable {p : Profile} {id : Nat → String} {tokenize : String → Except String (List Token)}
  {markdown : String} {tokens : List Token}

/-- The warning about a rule, with the lines that the tokenizer read it from. -/
def ruleWarning (markdown : String) (t : Token) : Warning :=
  ⟨.unsupportedFeature, Issue.ruleUnsupported.message, t.line, t.quoted markdown⟩

/-- The warnings about rules, and the error that a rule causes, quote the lines that the tokenizer
read the rules from, when no line up to a rule holds a character at which only the text is cut. -/
theorem convert_ruleWarnings (htext : Text.isBlankText markdown = false)
    (htokens : tokenize markdown = .ok tokens)
    (hplain : ∀ t ∈ Outline.rules tokens, t.IsPlain markdown) :
    (∀ c, (p.convert id tokenize (.str markdown)).result = .ok c →
        c.warnings.filter (fun w => w.kind = .unsupportedFeature) =
          (Outline.rules tokens).map (ruleWarning markdown)) ∧
      ∀ w, (p.convert id tokenize (.str markdown)).result = .error (.rejected w) →
        w.message = Issue.ruleUnsupported.reason →
        (Outline.rules tokens).head?.map (ruleWarning markdown) = some w := by
  have hwarning : ∀ t ∈ Outline.rules tokens,
      ((Site.mk p (Text.lines markdown)).ruleNotice t).warning = ruleWarning markdown t := by
    intro t ht
    rw [Site.ruleNotice, Token.sourceText_lines (hplain t ht)]
    rfl
  refine ⟨fun c hc => ?_, fun w hw hmessage => ?_⟩
  · obtain ⟨hblank, -⟩ | ⟨tokens', nodes, -, htokens', hnodes, rfl⟩ := convert_eq_ok hc
    · rw [htext] at hblank
      cases hblank
    · obtain rfl := Except.ok.inj (htokens.symm.trans htokens')
      have hkind : (fun w : Warning => decide (w.kind = .unsupportedFeature)) ∘ Notice.warning =
          fun n => decide (n.issue = .ruleUnsupported) := by
        funext n
        obtain ⟨issue, line, text⟩ := n
        cases issue <;> rfl
      show List.filter _ (List.map _ _) = _
      rw [List.filter_map, hkind, Site.filter_notices_resolve _ hnodes, List.map_map]
      exact List.map_congr_left hwarning
  · obtain ⟨reason, hfailed, -⟩ | ⟨tokens', n, htokens', hn, rfl⟩ := convert_eq_rejected hw
    · cases htokens.symm.trans hfailed
    · obtain rfl := Except.ok.inj (htokens.symm.trans htokens')
      obtain ⟨t, ht, rfl⟩ := Option.map_eq_some_iff.mp (Site.head?_ruleNotice _ hn hmessage)
      rw [ht, Option.map_some, ← hwarning t (List.mem_of_mem_head? ht)]
      rfl

/-- Tokens of a paragraph and a rule on the line at `start`. -/
def ruledTokens (start : Int) : List Token :=
  [{ kind := .paragraphOpen }, { kind := .inline }, { kind := .paragraphClose },
    { kind := .rule, span := some ⟨start, start + 1⟩ }]

/-- A form feed behind the rule does no harm. -/
theorem convert_formFeedBehindRule :
    ∃ c, (convert {} toString (fun _ => .ok (ruledTokens 1)) (.str "a\r\n * * *\rb\x0cc")).result =
        .ok c ∧
      c.warnings.filter (fun w => w.kind = .unsupportedFeature) =
        [⟨.unsupportedFeature, Issue.ruleUnsupported.message, some 2, some "* * *"⟩] := by
  have hall : ((Markdown.sourceLines "a\r\n * * *\rb\x0cc").take 2).all
      (fun l => l.all fun c => !Text.endsLine c) = true := by
    decide +kernel
  have hbefore : Markdown.PlainBefore "a\r\n * * *\rb\x0cc" 2 :=
    ⟨by decide +kernel, by simpa only [List.all_eq_true, Bool.not_eq_true'] using hall⟩
  have hplain : ∀ t ∈ Outline.rules (ruledTokens 1), t.IsPlain "a\r\n * * *\rb\x0cc" :=
    List.forall_mem_singleton.mpr fun span hspan =>
      Option.some.inj hspan ▸ ⟨by decide, by decide, hbefore⟩
  obtain ⟨c, hc⟩ : ∃ c, (convert {} toString (fun _ => .ok (ruledTokens 1))
      (.str "a\r\n * * *\rb\x0cc")).result = .ok c := ⟨_, rfl⟩
  refine ⟨c, hc, ?_⟩
  rw [(convert_ruleWarnings (by decide +kernel) rfl hplain).1 c hc]
  decide +kernel

/-- Behind a form feed the text of a rule is lost. -/
theorem convert_formFeedBeforeRule :
    ∃ c, (convert {} toString (fun _ => .ok (ruledTokens 2)) (.str "a\x0cb\n\n---\n")).result =
        .ok c ∧
      c.warnings = [⟨.unsupportedFeature, Issue.ruleUnsupported.message, some 3, none⟩] ∧
      Markdown.quotedLines "a\x0cb\n\n---\n" 2 3 = some "---" := by
  refine ⟨_, rfl, ?_, by decide +kernel⟩
  decide +kernel

end Profile

end MarkdownAdf
