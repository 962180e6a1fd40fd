import MarkdownAdf.Proofs.Document.Conformance
import MarkdownAdf.Proofs.Node.Text

/-!
# Nodes of leaf blocks

Paragraphs, headings and tables are made of nodes of few kinds, whatever their content is, and none
of these nodes has a local id.
-/

namespace MarkdownAdf

/-- The kinds of the nodes of which paragraphs, headings and tables are made. -/
def NodeKind.isInLeaf : NodeKind → Bool
  | paragraph | heading | table | tableRow | tableHeader | tableCell | text | hardBreak => true
  | _ => false

namespace Node

/-- All nodes of a forest are such as leaf blocks are made of. -/
def InLeaf (ns : List Node) : Prop :=
  ∀ n ∈ forest ns, n.kind.isInLeaf = true ∧ n.attrs.lookup "localId" = none

theorem inLeaf_iff {ns : List Node} :
    InLeaf ns ↔
      ∀ n ∈ ns, (n.kind.isInLeaf = true ∧ n.attrs.lookup "localId" = none) ∧ InLeaf n.content :=
  forall_mem_forest

theorem inLeaf_nil : InLeaf [] := List.forall_mem_nil _

theorem inLeaf_singleton {n : Node} (hkind : n.kind.isInLeaf = true)
    (hattrs : n.attrs.lookup "localId" = none) (h : InLeaf n.content) : InLeaf [n] :=
  inLeaf_iff.mpr (List.forall_mem_singleton.mpr ⟨⟨hkind, hattrs⟩, h⟩)

theorem inLeaf_map {α : Type} {f : α → Node} {as : List α} (h : ∀ a ∈ as, InLeaf [f a]) :
    InLeaf (as.map f) := by
  refine inLeaf_iff.mpr fun n hn => ?_
  obtain ⟨a, ha, rfl⟩ := List.mem_map.mp hn
  exact inLeaf_iff.mp (h a ha) (f a) List.mem_cons_self

theorem inLeaf_inline {ns : List Node} (h : ∀ n ∈ ns, n.IsInline) : InLeaf ns := by
  rw [InLeaf, forest_inline h]
  intro n hn
  cases h n hn <;> exact ⟨rfl, rfl⟩

theorem inLeaf_paragraph {content : List Node} (h : ∀ n ∈ content, n.IsInline) :
    InLeaf [paragraph content] :=
  inLeaf_singleton rfl rfl (inLeaf_inline h)

theorem inLeaf_tableOfRows {rows : List (List (Bool × List Node))}
    (h : ∀ cells ∈ rows, ∀ c ∈ cells, ∀ n ∈ c.2, n.IsInline) : InLeaf [tableOfRows rows] := by
  refine inLeaf_singleton rfl rfl (inLeaf_map fun cells hcells => ?_)
  refine inLeaf_singleton rfl rfl (inLeaf_map fun c hc => ?_)
  have hcontent := inLeaf_paragraph (h cells hcells c hc)
  cases hheader : c.1 <;> exact inLeaf_singleton rfl rfl hcontent

end Node

namespace Site

open Outcome Node

variable (s : Site)

theorem ensures_inLeaf_paragraph (body : Option Token) :
    (s.paragraph body).Ensures fun _ ns => InLeaf ns :=
  .bind (s.ensures_inline body) fun _ _ h => .pure (inLeaf_paragraph h)

theorem ensures_inLeaf_heading (opening : Token) (body : Option Token) :
    (s.heading opening body).Ensures fun _ ns => InLeaf ns := by
  refine .bind (s.ensures_inline body) fun _ content hcontent => ?_
  cases s.profile.headingIssue? opening.headingLevel with
  | none => exact .pure (inLeaf_singleton rfl rfl (inLeaf_inline hcontent))
  | some issue =>
      exact .bind (.report _ _) fun _ _ _ => .pure (inLeaf_paragraph (isInline_embolden hcontent))

theorem ensures_inLeaf_rule (t : Token) : (s.rule t).Ensures fun _ ns => InLeaf ns :=
  .bind (.report _ _) fun _ _ _ => .pure inLeaf_nil

theorem ensures_inLeaf_table (opening : Token) (parts : List (TablePart (Option Token))) :
    (s.table opening parts).Ensures fun _ ns => InLeaf ns := by
  refine .bind (s.ensures_tableParts s.ensures_inline parts) fun _ cells hcells => ?_
  have htable := inLeaf_tableOfRows (TablePart.forall_mem_rows hcells)
  exact .ite_note htable htable

end Site

end MarkdownAdf
