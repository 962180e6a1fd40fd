import MarkdownAdf.Proofs.Node.Build
import MarkdownAdf.Proofs.Node.Forest

/-!
# Trees without languages

What is left of a tree when the languages of its code blocks are taken away. Everything that is done
with nodes can be done behind this as well, since none of it looks at a language.
-/

namespace MarkdownAdf.Node

mutual

/-- The tree without the languages of its code blocks. -/
def withoutLanguage : Node → Node
  | ⟨type, content, text, attrs, marks⟩ =>
    let attrs :=
      if NodeKind.ofName type = .codeBlock then attrs.filter fun a => a.1 ≠ "language" else attrs
    ⟨type, withoutLanguages content, text, attrs, marks⟩

def withoutLanguages : List Node → List Node
  | [] => []
  | n :: rest => withoutLanguage n :: withoutLanguages rest

end

theorem withoutLanguages_eq_map (ns : List Node) :
    withoutLanguages ns = ns.map withoutLanguage := by
  induction ns with
  | nil => rfl
  | cons n ns ih => rw [withoutLanguages, List.map_cons, ih]

@[simp]
theorem kind_withoutLanguage (n : Node) : n.withoutLanguage.kind = n.kind := by
  cases n
  rfl

theorem withoutLanguage_of_kind_ne {n : Node} (h : n.kind ≠ .codeBlock) :
    n.withoutLanguage = { n with content := withoutLanguages n.content } := by
  cases n
  rw [withoutLanguage]
  exact congrArg (Node.mk _ _ _ · _) (if_neg h)

theorem withoutLanguage_container {k : NodeKind} (h : k ≠ .codeBlock) (ns : List Node) :
    (container k ns).withoutLanguage = container k (withoutLanguages ns) :=
  withoutLanguage_of_kind_ne (by rwa [kind_container])

/-- Code blocks with the same source differ in nothing else. -/
theorem withoutLanguage_codeBlock (source : String) (language other : Option String) :
    (codeBlock source language).withoutLanguage = (codeBlock source other).withoutLanguage := by
  have hattrs (l : Option String) :
      (optionalAttr "language" l).filter (fun a => a.1 ≠ "language") = [] := by
    rw [optionalAttr]
    split <;> rfl
  have hbare (l : Option String) : (codeBlock source l).withoutLanguage =
      { type := NodeKind.codeBlock.name,
        content := withoutLanguages (if source = "" then [] else [run source]) } := by
    rw [codeBlock, withoutLanguage, if_pos (NodeKind.ofName_name _), hattrs]
  rw [hbare, hbare other]

theorem withoutLanguages_append (as bs : List Node) :
    withoutLanguages (as ++ bs) = withoutLanguages as ++ withoutLanguages bs := by
  simp only [withoutLanguages_eq_map, List.map_append]

theorem withoutLanguages_orParagraph (ns : List Node) :
    withoutLanguages (orParagraph ns) = orParagraph (withoutLanguages ns) := by
  cases ns with
  | nil => rfl
  | cons n ns => rfl

/-- Which kinds of nodes are left out does not depend on languages. -/
theorem withoutLanguages_filter (p : NodeKind → Bool) (ns : List Node) :
    withoutLanguages (ns.filter fun n => p n.kind) =
      (withoutLanguages ns).filter fun n => p n.kind := by
  simp only [withoutLanguages_eq_map, List.filter_map, Function.comp_def, kind_withoutLanguage]

theorem withoutLanguage_listOf (ordered : Bool) (run : Bool × List Node) :
    (listOf ordered run).withoutLanguage = listOf ordered (run.1, withoutLanguages run.2) := by
  obtain ⟨flag, items⟩ := run
  cases flag with
  | true => rfl
  | false => cases ordered <;> rfl

/-- Where a list is cut does not depend on languages. -/
theorem withoutLanguages_flagRuns (ordered : Bool) (items : List (Bool × Node)) :
    withoutLanguages ((flagRuns items).map (listOf ordered)) =
      (flagRuns (items.map fun item => (item.1, item.2.withoutLanguage))).map (listOf ordered) := by
  simp only [flagRuns_map, withoutLanguages_eq_map, List.map_map, Function.comp_def,
    withoutLanguage_listOf]

end MarkdownAdf.Node
