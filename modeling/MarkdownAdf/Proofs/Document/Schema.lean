import MarkdownAdf.Converter
import MarkdownAdf.Proofs.Node.Forest

/-!
# The schema of documents

What a node may be and hold in a document made under a profile. The schema is stated node by node,
each with its own fields and with the kinds of its children.
-/

namespace MarkdownAdf

namespace NodeKind

/-- Blocks that may stand at the top of a document and in a quote. -/
def isTopLevel : NodeKind → Bool
  | paragraph | heading | bulletList | orderedList | taskList | blockquote | codeBlock | table =>
    true
  | _ => false

/-- Whether a node of one kind may hold a node of another. -/
def admits : NodeKind → NodeKind → Bool
  | paragraph, k | heading, k | taskItem, k => k == text || k == hardBreak
  | bulletList, k | orderedList, k => k == listItem
  | taskList, k => k == taskItem
  | listItem, k => k.fitsListItem
  | blockquote, k => k.isTopLevel
  | codeBlock, k => k == text
  | table, k => k == tableRow
  | tableRow, k => k == tableHeader || k == tableCell
  | tableHeader, k | tableCell, k => k == paragraph
  | _, _ => false

/-- Whether nodes of the kind never stand without content. -/
def needsContent : NodeKind → Bool
  | bulletList | orderedList | taskList | listItem | blockquote => true
  | _ => false

end NodeKind

/-- The marks that conversion gives to texts. -/
def MarkKind.isGiven : MarkKind → Bool
  | .textColor => false
  | _ => true

/-- A mark of a type that conversion gives. -/
def Mark.IsGiven (m : Mark) : Prop := ∃ k : MarkKind, k.isGiven = true ∧ m.type = k.name

namespace Node

/-- What the schema asks of a node of each kind. The kinds that no conversion makes are refused. -/
def Fits (p : Profile) (n : Node) : Prop :=
  match n.kind with
  | .heading =>
    p.preset.allowsHeadings = true ∧ p.useHeadings = true ∧
      ∃ level : Nat, n.attrs.value "level" = .int level ∧ 1 ≤ level ∧ level ≤ p.maxHeadingLevel
  | .blockquote => p.preset ≠ .comment
  | .taskItem => ∃ checked, n.attrs.value "state" = .str (taskState checked)
  | .tableHeader | .tableCell => n.content.length = 1
  | .codeBlock => n.content.length ≤ 1
  | .text => n.text.isSome = true ∧ ∀ m ∈ n.marks, m.IsGiven
  | .paragraph | .bulletList | .orderedList | .listItem | .taskList | .table | .tableRow
  | .hardBreak => True
  | .doc | .rule | .mention | .emoji | .inlineCard | .unknown => False

/-- A node that the schema allows, as far as it and the kinds of its children tell. -/
structure Conforms (p : Profile) (n : Node) : Prop where
  fits : n.Fits p
  admits : ∀ m ∈ n.content, n.kind.admits m.kind = true
  nonempty : n.kind.needsContent = true → n.content ≠ []
  plain : n.kind ≠ .text → n.text = none ∧ n.marks = []
  unmarked : n.kind = .codeBlock → ∀ m ∈ n.content, m.marks = []

/-- All nodes of a list of trees conform. -/
def AllConform (p : Profile) (ns : List Node) : Prop := ∀ n ∈ forest ns, n.Conforms p

end Node

/-- A document of at least one block in which every node conforms. -/
structure Document.Conforms (p : Profile) (d : Document) : Prop where
  nonempty : d.content ≠ []
  topLevel : ∀ n ∈ d.content, n.kind.isTopLevel = true
  nodes : ∀ n ∈ d.nodes, n.Conforms p

namespace Node

variable {p : Profile}

theorem allConform_iff {ns : List Node} :
    AllConform p ns ↔ ∀ n ∈ ns, n.Conforms p ∧ AllConform p n.content :=
  forall_mem_forest

theorem allConform_nil : AllConform p [] := by simp [AllConform]

theorem allConform_append {as bs : List Node} (ha : AllConform p as) (hb : AllConform p bs) :
    AllConform p (as ++ bs) := by
  rw [AllConform, forest_append]
  exact List.forall_mem_append.mpr ⟨ha, hb⟩

theorem allConform_singleton {n : Node} (hn : n.Conforms p) (hcontent : AllConform p n.content) :
    AllConform p [n] :=
  allConform_iff.mpr (by simpa using ⟨hn, hcontent⟩)

theorem AllConform.of_subset {as bs : List Node} (hb : AllConform p bs) (h : ∀ n ∈ as, n ∈ bs) :
    AllConform p as :=
  allConform_iff.mpr fun n hn => allConform_iff.mp hb n (h n hn)

/-! ### Numbering -/

theorem kind_eq_of_face {n m : Node} (h : n.face = m.face) : n.kind = m.kind :=
  congrArg NodeKind.ofName (congrArg Prod.fst h)

/-- Whether a node conforms does not depend on its local id or on those below it. -/
theorem Conforms.relabel {n m : Node} (hn : n.Conforms p) (h : n.Relabels m) : m.Conforms p := by
  obtain ⟨htype, htext, hmarks⟩ : n.type = m.type ∧ n.text = m.text ∧ n.marks = m.marks := by
    simpa [face] using h.face
  have hkind : n.kind = m.kind := kind_eq_of_face h.face
  have hlength : m.content.length = n.content.length := by
    simpa using congrArg List.length h.content.symm
  have hchild {P : Node → Prop} (hP : ∀ a b : Node, a.face = b.face → P a → P b)
      (hall : ∀ c ∈ n.content, P c) : ∀ c ∈ m.content, P c := by
    intro c hc
    have : c.face ∈ n.content.map face := h.content ▸ List.mem_map_of_mem hc
    obtain ⟨a, ha, hac⟩ := List.mem_map.mp this
    exact hP a c hac (hall a ha)
  refine ⟨?_, ?_, ?_, ?_, ?_⟩
  · rw [Fits, ← hkind, ← htext, ← hmarks, hlength, h.attrs "level" (by decide),
      h.attrs "state" (by decide)]
    exact hn.fits
  · rw [← hkind]
    exact hchild (fun a b hab ha => kind_eq_of_face hab ▸ ha) hn.admits
  · rw [← hkind]
    intro hneeds hnil
    refine hn.nonempty hneeds (List.eq_nil_of_length_eq_zero ?_)
    rw [← hlength, hnil, List.length_nil]
  · rw [← hkind, ← htext, ← hmarks]
    exact hn.plain
  · rw [← hkind]
    intro hcode
    exact hchild (fun a b hab ha => (congrArg (fun face => face.2.2) hab).symm.trans ha)
      (hn.unmarked hcode)

theorem AllConform.label {ns : List Node} (h : AllConform p ns) (id : Nat → String) (next : Nat) :
    AllConform p (labelAll id next ns).1 := by
  intro m hm
  obtain ⟨n, hn, hnm⟩ := exists_relabels_of_mem_forest id ns next m hm
  exact (h n hn).relabel hnm

end Node

theorem Document.Conforms.label {p : Profile} {d : Document} (h : d.Conforms p)
    (id : Nat → String) : (d.label id).Conforms p where
  nonempty := by
    intro hnil
    have hlength := congrArg List.length (Node.labelAll_map_face id 0 d.content)
    rw [show (Node.labelAll id 0 d.content).1 = [] from hnil] at hlength
    exact h.nonempty (List.eq_nil_of_length_eq_zero (by simpa using hlength.symm))
  topLevel := by
    intro n hn
    have hface : n.face ∈ d.content.map Node.face := by
      rw [← Node.labelAll_map_face id 0]
      exact List.mem_map_of_mem hn
    obtain ⟨m, hm, hmn⟩ := List.mem_map.mp hface
    exact Node.kind_eq_of_face hmn ▸ h.topLevel m hm
  nodes := Node.AllConform.label h.nodes id 0

end MarkdownAdf
