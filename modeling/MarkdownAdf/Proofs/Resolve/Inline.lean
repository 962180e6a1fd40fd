import MarkdownAdf.Proofs.Document.Schema

/-!
# Inline nodes

The content of a leaf block is made of texts and hard breaks alone, and the texts carry only marks
that conversion gives. Joining, strengthening and trimming keep this.
-/

namespace MarkdownAdf

theorem Mark.isGiven_plain {k : MarkKind} (h : k.isGiven = true) : (Mark.plain k).IsGiven :=
  ⟨k, h, rfl⟩

theorem Mark.isGiven_link (href : String) (title : Option String) :
    (Mark.link href title).IsGiven :=
  ⟨.link, rfl, rfl⟩

/-- A text with marks that conversion gives, or a hard break. -/
inductive Node.IsInline : Node → Prop where
  | run (text : String) {marks : List Mark} (h : ∀ m ∈ marks, m.IsGiven) : IsInline (run text marks)
  | hardBreak : IsInline hardBreak

namespace Inline

theorem mem_of_mem_firstOfType {m : Mark} {ms : List Mark} (h : m ∈ firstOfType ms) : m ∈ ms := by
  induction ms with
  | nil => exact h
  | cons a ms ih =>
      rw [firstOfType, List.mem_cons, List.mem_filter] at h
      rcases h with rfl | h
      · exact List.mem_cons_self
      · exact List.mem_cons_of_mem a (ih h.1)

namespace Cursor

/-- The open marks are marks that conversion gives. -/
def Given (c : Cursor) : Prop := ∀ m ∈ c.marks, m.IsGiven

variable {c : Cursor}

theorem Given.push (hc : c.Given) {m : Mark} (hm : m.IsGiven) : (c.push m).Given := by
  intro x hx
  rcases List.mem_cons.mp hx with rfl | hx
  · exact hm
  · exact hc x hx

theorem Given.remove (hc : c.Given) (k : MarkKind) : (c.remove k).Given :=
  fun m hm => hc m (List.mem_of_mem_eraseP hm)

theorem Given.advance (hc : c.Given) (style : Style) (t : Inline) : (c.advance style t).Given := by
  cases t with
  | openMark e => exact hc.push (Mark.isGiven_plain (by cases e <;> rfl))
  | closeMark e => exact hc.remove _
  | openLink href title =>
      rw [Cursor.advance]
      split
      · exact hc.push (Mark.isGiven_link _ _)
      · exact hc
  | closeLink =>
      rw [Cursor.advance]
      split
      · exact hc
      · exact hc.remove _
      · exact hc
  | markup content =>
      rw [Cursor.advance]
      split
      · exact hc
      · exact hc
  | _ => exact hc

theorem Given.isInline_run (hc : c.Given) (text : String) {inner : List Mark}
    (hinner : ∀ m ∈ inner, m.IsGiven) : ∀ n ∈ c.run text inner, n.IsInline := by
  intro n hn
  rw [Cursor.run] at hn
  split at hn
  · cases hn
  · obtain rfl := List.mem_singleton.mp hn
    refine .run text fun m hm => ?_
    rcases List.mem_append.mp (mem_of_mem_firstOfType hm) with hm | hm
    · exact hc m (List.mem_reverse.mp hm)
    · exact hinner m hm

theorem Given.isInline_nodes (hc : c.Given) (style : Style) (t : Inline) :
    ∀ n ∈ c.nodes style t, n.IsInline := by
  have hrun (text : String) : ∀ n ∈ c.run text, n.IsInline := hc.isInline_run text (by simp)
  cases t with
  | text content => exact hrun content
  | code content => exact hc.isInline_run content (by simpa using Mark.isGiven_plain rfl)
  | softBreak =>
      rw [Cursor.nodes]
      split
      · simpa using Node.IsInline.hardBreak
      · exact hrun " "
  | hardBreak => simpa [Cursor.nodes] using Node.IsInline.hardBreak
  | markup content =>
      rw [Cursor.nodes]
      split
      · simp
      · split
        · simp
        · exact hrun _
  | image content src alt =>
      rw [Cursor.nodes]
      split
      · exact hc.isInline_run _ (by simpa using Mark.isGiven_link _ _)
      · exact hrun _
  | _ => simp [Cursor.nodes]

end Cursor

theorem isInline_pieces (style : Style) (tokens : List Inline) {c : Cursor} (hc : c.Given) :
    ∀ n ∈ pieces style c tokens, n.IsInline := by
  induction tokens generalizing c with
  | nil => simp [pieces]
  | cons t tokens ih =>
      intro n hn
      rcases List.mem_append.mp hn with hn | hn
      · exact hc.isInline_nodes style t n hn
      · exact ih (hc.advance style t) n hn

end Inline

namespace Node

theorem IsInline.join {a b : Node} (ha : a.IsInline) (htext : a.isText = true) :
    (a.join b).IsInline := by
  cases ha with
  | run text h => exact .run _ h
  | hardBreak => cases htext

theorem isInline_mergeCons {n : Node} {ns : List Node} (hn : n.IsInline)
    (hns : ∀ m ∈ ns, m.IsInline) : ∀ m ∈ mergeCons n ns, m.IsInline := by
  cases ns with
  | nil => simpa [mergeCons] using hn
  | cons m rest =>
      rw [mergeCons]
      split
      · next hjoin =>
        rw [joinable_iff] at hjoin
        rw [List.forall_mem_cons] at hns ⊢
        exact ⟨hn.join hjoin.1.1, hns.2⟩
      · rw [List.forall_mem_cons]
        exact ⟨hn, hns⟩

theorem isInline_mergeTexts {ns : List Node} (h : ∀ n ∈ ns, n.IsInline) :
    ∀ n ∈ mergeTexts ns, n.IsInline := by
  induction ns with
  | nil => exact h
  | cons n ns ih =>
      rw [List.forall_mem_cons] at h
      exact isInline_mergeCons h.1 (ih h.2)

theorem IsInline.strengthen {n : Node} (hn : n.IsInline) : n.strengthen.IsInline := by
  rw [Node.strengthen]
  split
  · cases hn with
    | run text h =>
        refine .run text fun m hm => ?_
        rcases List.mem_append.mp hm with hm | hm
        · exact h m hm
        · exact List.mem_singleton.mp hm ▸ Mark.isGiven_plain rfl
    | hardBreak => simp_all [Node.isText, Node.kind, Node.hardBreak, Node.container]
  · exact hn

theorem isInline_embolden {ns : List Node} (h : ∀ n ∈ ns, n.IsInline) :
    ∀ n ∈ embolden ns, n.IsInline := by
  cases ns with
  | nil =>
      have hrun : (run "" [Mark.plain .strong]).IsInline :=
        .run "" (by simpa using Mark.isGiven_plain rfl)
      simpa [embolden] using hrun
  | cons n ns =>
      refine isInline_mergeTexts fun m hm => ?_
      obtain ⟨a, ha, rfl⟩ := List.mem_map.mp hm
      exact (h a ha).strengthen

theorem isInline_trimFirst {ns : List Node} (h : ∀ n ∈ ns, n.IsInline) :
    ∀ n ∈ trimFirst ns, n.IsInline := by
  cases ns with
  | nil => exact h
  | cons n ns =>
      rw [List.forall_mem_cons] at h
      rw [trimFirst]
      dsimp only
      split
      · split
        · simpa using h
        · split
          · exact h.2
          · rw [List.forall_mem_cons]
            refine ⟨?_, h.2⟩
            cases h.1 with
            | run text hmarks => exact .run _ hmarks
            | hardBreak => simp_all [Node.isText, Node.kind, Node.hardBreak, Node.container]
      · simpa using h

end Node

theorem Inline.isInline_resolve (style : Inline.Style) (tokens : List Inline) :
    ∀ n ∈ (Inline.resolve style tokens).nodes, n.IsInline :=
  Node.isInline_mergeTexts (Inline.isInline_pieces style tokens (by simp [Cursor.Given]))

end MarkdownAdf
