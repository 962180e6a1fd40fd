import MarkdownAdf.Markdown.Line
import MarkdownAdf.Text.Lines

/-!
# Two ways to number lines

A tokenizer ends lines at line feeds and carriage returns. Texts are cut at more characters than
these, so the two ways to number the lines of a text agree as far as none of the other characters
occurs.
-/

namespace MarkdownAdf

open Text

/-- The lines of a text as the tokenizer numbers them: they end at `\n`, `\r\n` or `\r`. -/
def Markdown.sourceLines (s : String) : List (List Char) :=
  (linesOf [] (unifyLineEnds s.toList)).map Line.chars

namespace Text

/-- A carriage return alone is an end of line like any other. -/
theorem linesOf_afterReturn {cs : List Char} (h : ∀ rest, cs ≠ '\n' :: rest) (line : List Char) :
    linesOf line true cs = linesOf line false cs := by
  cases cs with
  | nil => rfl
  | cons c rest =>
      have hc : c ≠ '\n' := fun hc => h rest (hc ▸ rfl)
      rw [linesOf, linesOf]
      simp [hc]

/-- What was read of a line is part of the next line that ends. -/
theorem mem_chars_linesOf {line cs : List Char} {l : Markdown.Line} {ls : List Markdown.Line}
    (h : Markdown.linesOf line cs = l :: ls) : ∀ c ∈ line, c ∈ l.chars := by
  induction cs generalizing line with
  | nil =>
      rw [Markdown.linesOf] at h
      split at h
      · cases h
      · cases h
        simp [Markdown.Line.ofChars]
  | cons c cs ih =>
      rw [Markdown.linesOf] at h
      split at h
      · cases h
        simp [Markdown.Line.ofChars]
      · exact fun d hd => ih h d (List.mem_cons_of_mem c hd)

/-- The lines of a text and those of the tokenizer are the same as far as the latter hold none of
the other ends of lines. -/
def AgreeWhilePlain (ls : List (List Char)) (ms : List Markdown.Line) : Prop :=
  ∀ n, n ≤ ms.length → (∀ m ∈ ms.take n, ∀ c ∈ m.chars, endsLine c = false) →
    ls.take n = (ms.take n).map Markdown.Line.chars

theorem AgreeWhilePlain.cons {ls : List (List Char)} {ms : List Markdown.Line} (m : Markdown.Line)
    (h : AgreeWhilePlain ls ms) : AgreeWhilePlain (m.chars :: ls) (m :: ms) := by
  intro n hn hplain
  cases n with
  | zero => rfl
  | succ n =>
      rw [List.take_succ_cons, List.forall_mem_cons] at hplain
      rw [List.take_succ_cons, List.take_succ_cons, List.map_cons,
        h n (Nat.le_of_succ_le_succ hn) hplain.2]

/-- Nothing is said about lines of which the first holds another end of line. -/
theorem agreeWhilePlain_of_mem {ls : List (List Char)} {ms : List Markdown.Line} {c : Char}
    (hc : endsLine c = true) (h : ∀ m rest, ms = m :: rest → c ∈ m.chars) :
    AgreeWhilePlain ls ms := by
  intro n hn hplain
  cases n with
  | zero => rfl
  | succ n =>
      cases ms with
      | nil => cases hn
      | cons m rest =>
          have hfirst := hplain m List.mem_cons_self c (h m rest rfl)
          rw [hc] at hfirst
          cases hfirst

theorem agreeWhilePlain_linesOf (line cs : List Char) :
    AgreeWhilePlain (linesOf line false cs) (Markdown.linesOf line (unifyLineEnds cs)) := by
  -- The cases are the end of the text, a carriage return with a line feed, one without, and any
  -- other character; only in the last can the two readers part.
  induction cs using unifyLineEnds.induct generalizing line with
  | case1 =>
      rw [unifyLineEnds, linesOf, Markdown.linesOf]
      split
      · next hempty =>
        obtain rfl := List.isEmpty_iff.mp hempty
        exact fun n _ _ => by simp
      · split
        · rintro n hn -
          obtain rfl := Nat.le_zero.mp hn
          rfl
        · exact .cons _ fun n _ _ => by simp
  | case2 rest ih =>
      have hlines : linesOf line false ('\r' :: '\n' :: rest) =
          line.reverse :: linesOf [] false rest := rfl
      rw [hlines, unifyLineEnds]
      exact (ih []).cons _
  | case3 rest hrest ih =>
      have hlines : linesOf line false ('\r' :: rest) = line.reverse :: linesOf [] true rest := rfl
      rw [hlines, unifyLineEnds.eq_3 _ hrest, linesOf_afterReturn hrest]
      exact (ih []).cons _
  | case4 c rest hpair hreturn ih =>
      rw [unifyLineEnds.eq_4 c rest hpair hreturn, linesOf, Markdown.linesOf, Bool.and_false,
        if_neg Bool.false_ne_true]
      by_cases hfeed : c = '\n'
      · subst hfeed
        exact (ih []).cons _
      · rw [if_neg hfeed]
        cases hends : endsLine c with
        | true =>
            exact agreeWhilePlain_of_mem hends fun _ _ h =>
              mem_chars_linesOf h c List.mem_cons_self
        | false => exact ih (c :: line)

/-- The first lines of a text are those of the tokenizer when none of these holds another end of
line. -/
theorem take_lines (s : String) {n : Nat} (hn : n ≤ (Markdown.sourceLines s).length)
    (hplain : ∀ l ∈ (Markdown.sourceLines s).take n, ∀ c ∈ l, endsLine c = false) :
    (lines s).take n = ((Markdown.sourceLines s).take n).map String.ofList := by
  have hlines := agreeWhilePlain_linesOf [] s.toList n (by simpa [Markdown.sourceLines] using hn)
    (by simpa [Markdown.sourceLines, ← List.map_take] using hplain)
  rw [lines, Markdown.sourceLines, ← List.map_take, hlines, ← List.map_take]

end Text

end MarkdownAdf
