import MarkdownAdf.Proofs.Resolve.Outcome
import MarkdownAdf.Resolve.Block

/-!
# Cells of a table

The cells of the rows of a table are those of its parts, and what the conversion of a cell ensures
holds of all of them.
-/

namespace MarkdownAdf

namespace TablePart

variable {α : Type} {P : α → Prop}

/-- All cells that were read so far have bodies with a property. -/
def Rows.All (P : α → Prop) (r : Rows α) : Prop :=
  ∀ cells ∈ r.current.toList ++ r.done, ∀ c ∈ cells, P c.2

theorem Rows.All.add {r : Rows α} (hr : r.All P) {part : TablePart α}
    (hpart : ∀ header body, part = .cell header body → P body) : (r.add part).All P := by
  have hdone : ∀ cells ∈ r.done, ∀ c ∈ cells, P c.2 := fun cells hcells =>
    hr cells (List.mem_append_right _ hcells)
  have hcurrent : ∀ c ∈ r.current.getD [], P c.2 := by
    intro c hc
    cases hopen : r.current with
    | none => simp [hopen] at hc
    | some cells => exact hr cells (by simp [hopen]) c (by simpa [hopen] using hc)
  cases part with
  | headOpen | headClose => exact hr
  | rowOpen => simpa [Rows.All, Rows.add] using hdone
  | rowClose =>
      intro cells hcells
      simp only [Rows.add, Option.toList_none, List.nil_append, List.mem_append] at hcells
      exact hr cells (List.mem_append.mpr hcells.symm)
  | cell header body =>
      have hbody := hpart header body rfl
      intro cells hcells
      simp only [Rows.add, Option.toList_some, List.singleton_append, List.mem_cons] at hcells
      rcases hcells with rfl | hcells
      · intro c hc
        rcases List.mem_append.mp hc with hc | hc
        · exact hcurrent c hc
        · exact List.mem_singleton.mp hc ▸ hbody
      · exact hdone cells hcells

theorem Rows.All.foldl {parts : List (TablePart α)} {r : Rows α} (hr : r.All P)
    (h : ∀ header body, .cell header body ∈ parts → P body) : (parts.foldl Rows.add r).All P := by
  induction parts generalizing r with
  | nil => exact hr
  | cons part parts ih =>
      refine ih (hr.add fun header body hpart => ?_) fun header body hmem => ?_
      · exact h header body (hpart ▸ List.mem_cons_self)
      · exact h header body (List.mem_cons_of_mem part hmem)

/-- The cells of the rows of a table are cells of its parts. -/
theorem forall_mem_rows {parts : List (TablePart α)}
    (h : ∀ header body, .cell header body ∈ parts → P body) :
    ∀ cells ∈ rows parts, ∀ c ∈ cells, P c.2 := by
  have hall : (parts.foldl Rows.add {}).All P := Rows.All.foldl (by simp [Rows.All]) h
  intro cells hcells
  refine hall cells (List.mem_append.mpr ?_)
  rcases List.mem_append.mp hcells with hcells | hcells
  · exact .inr hcells
  · exact .inl (List.mem_filter.mp hcells).1

end TablePart

/-- What the content of every cell is like. -/
theorem Site.ensures_tableParts (s : Site) {P : List Node → Prop}
    (h : ∀ body, (s.inline body).Ensures fun _ ns => P ns)
    (parts : List (TablePart (Option Token))) :
    (s.tableParts parts).Ensures fun _ cells =>
      ∀ header body, .cell header body ∈ cells → P body := by
  induction parts with
  | nil => exact .pure (by simp)
  | cons part rest ih =>
      cases part with
      | cell header body =>
          refine .bind (h body) fun _ content hcontent => ?_
          refine .bind ih fun _ cells hcells => .pure fun header' body' hmem => ?_
          rcases List.mem_cons.mp hmem with heq | hmem
          · cases heq
            exact hcontent
          · exact hcells header' body' hmem
      | _ => exact .bind ih fun _ cells hcells => .pure (by simpa [TablePart.map] using hcells)

end MarkdownAdf
