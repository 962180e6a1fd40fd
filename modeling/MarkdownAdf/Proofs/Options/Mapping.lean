import MarkdownAdf.Options.Profile

/-!
# Options and mappings

A mapping is read entry by entry. The first key that names no setting ends the reading; of several
entries for one setting the last one counts, whatever their spelling. The mapping that options are
written as reads back as the options, with the name of the preset in the place of the preset.
-/

namespace MarkdownAdf

namespace Setting

/-- Whether a key names the setting, in either spelling. -/
def isNamedBy (x : Setting) (k : Value) : Bool := k = .str x.name || k = .str x.camelName

/-- Whether a key names any setting. -/
def isKnown (k : Value) : Bool := all.any fun x => x.isNamedBy k

theorem ofKey?_eq_some_iff {k : Value} {x : Setting} :
    ofKey? k = some x ↔ x.isNamedBy k = true := by
  constructor
  · intro h
    cases k with
    | str s =>
        have hfound := List.find?_some h
        rcases by simpa using hfound with rfl | rfl <;> simp [isNamedBy]
    | _ => cases h
  · intro h
    rcases by simpa [isNamedBy] using h with rfl | rfl
    · exact ofKey?_name x
    · exact ofKey?_camelName x

theorem isKnown_iff {k : Value} : isKnown k = true ↔ ∃ x, ofKey? k = some x := by
  simp only [isKnown, List.any_eq_true, mem_all, true_and, ofKey?_eq_some_iff]

/-- The value of the last entry that names the setting, if any does. -/
def lastIn? (x : Setting) (entries : List (Value × Value)) : Option Value :=
  (entries.reverse.find? fun e => x.isNamedBy e.1).map (·.2)

theorem lastIn?_cons (x : Setting) (e : Value × Value) (entries : List (Value × Value)) :
    x.lastIn? (e :: entries) =
      (x.lastIn? entries).or (if x.isNamedBy e.1 then some e.2 else none) := by
  rw [lastIn?, List.reverse_cons, List.find?_append, Option.map_or]
  cases h : x.isNamedBy e.1 <;> simp [lastIn?, h]

end Setting

namespace Options

/-- The first key of a mapping that names no setting. -/
def unknownKey? (entries : List (Value × Value)) : Option Value :=
  (entries.map (·.1)).find? fun k => !Setting.isKnown k

/-- Reading entries fails at the first unknown key; otherwise every setting has the value of the
last entry that names it, and keeps its value where there is none. -/
theorem foldlM_enter (entries : List (Value × Value)) (o : Options) :
    match entries.foldlM (m := Except OptionFailure) enter o with
    | .ok p => unknownKey? entries = none ∧ ∀ x, p.get x = (x.lastIn? entries).getD (o.get x)
    | .error failure =>
      ∃ k, unknownKey? entries = some k ∧ failure = ConfigError.report (.unknownOption k) := by
  induction entries generalizing o with
  | nil => exact ⟨rfl, fun x => rfl⟩
  | cons e entries ih =>
      rw [List.foldlM_cons, enter]
      cases hkey : Setting.ofKey? e.1 with
      | none =>
          have hunknown : Setting.isKnown e.1 = false := by
            simpa [hkey] using Setting.isKnown_iff (k := e.1)
          exact ⟨e.1, by simp [unknownKey?, hunknown], rfl⟩
      | some x =>
          have hknown : Setting.isKnown e.1 = true := Setting.isKnown_iff.mpr ⟨x, hkey⟩
          have hrest : unknownKey? (e :: entries) = unknownKey? entries := by
            simp [unknownKey?, hknown]
          have hset (y : Setting) :
              (o.set x e.2).get y =
                (if y.isNamedBy e.1 then some e.2 else none).getD (o.get y) := by
            by_cases hy : x = y
            · subst hy
              simp [Setting.ofKey?_eq_some_iff.mp hkey]
            · have hother : y.isNamedBy e.1 = false := by
                refine eq_false_of_ne_true fun hnamed => hy ?_
                exact Option.some.inj (hkey.symm.trans (Setting.ofKey?_eq_some_iff.mpr hnamed))
              simp [get_set_of_ne o e.2 hy, hother]
          have hfold := ih (o.set x e.2)
          simp only [hrest, Setting.lastIn?_cons, Option.getD_or, ← hset]
          exact hfold

/-- A mapping gives options exactly if no key of it is unknown, and they have the last values. -/
theorem ofMapping_spec (entries : List (Value × Value)) :
    match ofMapping entries with
    | .ok o => unknownKey? entries = none ∧ ∀ x, o.get x = (x.lastIn? entries).getD .null
    | .error failure =>
      ∃ k, unknownKey? entries = some k ∧ failure = ConfigError.report (.unknownOption k) := by
  have hfold := foldlM_enter entries {}
  have hunset (x : Setting) : get {} x = .null := by cases x <;> rfl
  simp only [hunset] at hfold
  exact hfold

theorem unknownKey?_eq_none_iff {entries : List (Value × Value)} :
    unknownKey? entries = none ↔ ∀ e ∈ entries, Setting.isKnown e.1 = true := by
  simp [unknownKey?]

end Options

end MarkdownAdf
