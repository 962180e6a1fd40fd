import MarkdownAdf.Proofs.Node.Merge
import MarkdownAdf.Proofs.Resolve.Marks

/-!
# Inline content in parts

A row of inline tokens that leaves no mark open can be turned into nodes apart from what follows:
the nodes of both rows, put together and joined, are those of the whole row. A link without a mark
may stay open at the cut, since closing it changes no mark.
-/

namespace MarkdownAdf

namespace Inline

/-! ### Cursors that give the same nodes -/

/-- Two cursors with the same open marks, the first with further links below that have no mark. -/
structure Cursor.Alike (c d : Cursor) : Prop where
  marks : c.marks = d.marks
  links : ∃ idle, c.links = d.links ++ idle ∧ ∀ marked ∈ idle, marked = false

namespace Cursor.Alike

variable {c d : Cursor} {style : Style}

theorem advance (h : Alike c d) (t : Inline) : Alike (c.advance style t) (d.advance style t) := by
  obtain ⟨idle, hlinks, hidle⟩ := h.links
  cases t with
  | openMark e => exact ⟨congrArg (e.mark :: ·) h.marks, h.links⟩
  | closeMark e => exact ⟨congrArg (List.eraseP _) h.marks, h.links⟩
  | openLink href title =>
      rw [Cursor.advance, Cursor.advance]
      split
      · exact ⟨congrArg (_ :: ·) h.marks, idle, congrArg (true :: ·) hlinks, hidle⟩
      · exact ⟨h.marks, idle, congrArg (false :: ·) hlinks, hidle⟩
  | closeLink =>
      rw [Cursor.advance, Cursor.advance, hlinks]
      cases hopen : d.links with
      | nil =>
          -- the close that finds nothing here takes one of the further links there
          cases idle with
          | nil => exact h
          | cons marked idle =>
              rw [List.forall_mem_cons] at hidle
              obtain ⟨rfl, hidle⟩ := hidle
              exact ⟨h.marks, idle, by rw [hopen]; rfl, hidle⟩
      | cons marked rest =>
          cases marked with
          | true => exact ⟨congrArg (List.eraseP _) h.marks, idle, rfl, hidle⟩
          | false => exact ⟨h.marks, idle, rfl, hidle⟩
  | markup content =>
      rw [Cursor.advance, Cursor.advance]
      split
      · exact ⟨h.marks, h.links⟩
      · exact h
  | _ => exact h

theorem nodes (h : Alike c d) (t : Inline) : c.nodes style t = d.nodes style t := by
  have hrun (text : String) (inner : List Mark) : c.run text inner = d.run text inner := by
    rw [Cursor.run, Cursor.run, Cursor.marksOf, Cursor.marksOf, h.marks]
  cases t <;> simp only [Cursor.nodes, hrun]

theorem pieces (h : Alike c d) (tokens : List Inline) :
    pieces style c tokens = pieces style d tokens := by
  induction tokens generalizing c d with
  | nil => rfl
  | cons t tokens ih => rw [Inline.pieces, Inline.pieces, h.nodes, ih (h.advance t)]

end Cursor.Alike

/-! ### A cut without open marks -/

theorem pieces_append (style : Style) (c : Cursor) (s t : List Inline) :
    pieces style c (s ++ t) = pieces style c s ++ pieces style (advanceAll style c s) t := by
  induction s generalizing c with
  | nil => rfl
  | cons token s ih =>
      rw [List.cons_append, pieces, pieces, ih, List.append_assoc]
      rfl

theorem Agrees.advanceAll {c : Cursor} {k : Counters} (h : Agrees c k) (style : Style)
    (tokens : List Inline) : Agrees (advanceAll style c tokens) (tokens.foldl Counters.next k) := by
  induction tokens generalizing c k with
  | nil => exact h
  | cons t tokens ih => exact ih (h.advance style t)

/-- Where no mark is open, no open link has one. -/
theorem Agrees.unmarked_links {c : Cursor} {k : Counters} (h : Agrees c k) (hmarks : c.marks = []) :
    ∀ marked ∈ c.links, marked = false := by
  have hopen : k.links.filterMap id = [] := by
    have hlink := h.marks.openMarks .link
    rw [hmarks, List.filter_nil] at hlink
    exact hlink.symm
  rw [h.links, List.forall_mem_map]
  intro link hlink
  exact congrArg Option.isSome (List.filterMap_eq_nil_iff.mp hopen link hlink)

/-- Behind a row that leaves no mark open the cursor is as good as new. -/
theorem alike_advanceAll {style : Style} {s : List Inline}
    (h : (advanceAll style {} s).marks = []) :
    Cursor.Alike (advanceAll style {} s) {} := by
  have hagrees : Agrees (advanceAll style {} s) (s.foldl Counters.next {}) :=
    Agrees.advanceAll ⟨.empty, rfl⟩ style s
  exact ⟨h, _, rfl, hagrees.unmarked_links h⟩

theorem nodes_resolve_append {style : Style} {s : List Inline}
    (h : (advanceAll style {} s).marks = []) (t : List Inline) :
    (resolve style (s ++ t)).nodes =
      Node.mergeTexts ((resolve style s).nodes ++ (resolve style t).nodes) := by
  rw [resolve, resolve, resolve, pieces_append, (alike_advanceAll h).pieces]
  exact Node.mergeTexts_append _ _

end Inline

namespace Node

/-- Joining gives a normal form, and one pass from the left finds it. Neighbouring texts in it
differ in their marks, the nodes that are no texts stay in their order, and every maximal stretch
becomes one node with the text of all. Lists in this form, and no others, stay as they are, so
joining again changes nothing, and lists may be joined in parts. So may inline content, where the
first part leaves no mark open. -/
theorem mergeTexts_normalForm (xs ys : List Node) (style : Inline.Style) (s t : List Inline) :
    mergeTexts xs = xs.foldl mergeSnoc [] ∧
      Separated (mergeTexts xs) ∧
      (mergeTexts xs).filter (fun n => !n.isText) = xs.filter (fun n => !n.isText) ∧
      List.Forall₂ Joins (xs.splitBy joinable) (mergeTexts xs) ∧
      (mergeTexts xs = xs ↔ Separated xs) ∧
      mergeTexts (mergeTexts xs) = mergeTexts xs ∧
      mergeTexts (xs ++ ys) = mergeTexts (mergeTexts xs ++ mergeTexts ys) ∧
      ((Inline.advanceAll style {} s).marks = [] →
        (Inline.resolve style (s ++ t)).nodes =
          mergeTexts ((Inline.resolve style s).nodes ++ (Inline.resolve style t).nodes)) :=
  ⟨mergeTexts_eq_foldl xs, separated_mergeTexts xs, filter_not_isText_mergeTexts xs,
    forall₂_joins_mergeTexts xs, mergeTexts_eq_self_iff, mergeTexts_mergeTexts xs,
    mergeTexts_append xs ys, fun h => Inline.nodes_resolve_append h t⟩

/-- Bold text that is closed and a link without a target that is not: the plain texts on both sides
of the cut are one. -/
theorem mergeTexts_normalForm_openLink :
    let s : List Inline := [.openMark .strong, .text "a", .closeMark .strong,
      .openLink none none, .text "b"]
    let t : List Inline := [.text "c", .closeLink, .closeMark .strong, .hardBreak]
    (Inline.advanceAll {} {} s).marks = [] ∧
      (Inline.resolve {} (s ++ t)).nodes =
        mergeTexts ((Inline.resolve {} s).nodes ++ (Inline.resolve {} t).nodes) ∧
      (Inline.resolve {} (s ++ t)).nodes =
        [run "a" [Mark.plain .strong], run "bc", hardBreak] := by
  intro s t
  have hs : (Inline.advanceAll {} {} s).marks = [] := by decide
  obtain ⟨-, -, -, -, -, -, -, hparts⟩ := mergeTexts_normalForm [] [] {} s t
  exact ⟨hs, hparts hs, by rfl⟩

end Node

end MarkdownAdf
