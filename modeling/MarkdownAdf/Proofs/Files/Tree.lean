import MarkdownAdf.Files.Tree

/-!
# What file operations keep

Making directories and adding to files never takes a directory away and never removes text from a
file. A path that leads somewhere keeps leading there as long as directories stay, so what is
written to a path is what is read from it.
-/

namespace MarkdownAdf.Files

theorem unlessRefused_eq_ok_iff {α : Type} {refusal : Option AccessError}
    {result : Except AccessError α} {a : α} :
    unlessRefused refusal result = .ok a ↔ refusal = none ∧ result = .ok a := by
  cases refusal <;> simp [unlessRefused]

namespace Tree

variable {s t u : Tree} {path : String} {place target : List String} {content : Bytes}

/-! ### Entries -/

theorem lookup_cons_ite (p q : List String) (e : Entry) (entries : List (List String × Entry)) :
    List.lookup q ((p, e) :: entries) = if q = p then some e else entries.lookup q := by
  by_cases hq : q = p
  · rw [if_pos hq, hq, List.lookup_cons_self]
  · rw [if_neg hq, List.lookup_cons, beq_eq_false_iff_ne.mpr hq]

theorem lookup_replace (entries : List (List String × Entry)) (place q : List String) (e : Entry) :
    (entries.map fun x => if x.1 = place then (place, e) else x).lookup q =
      if q = place then (entries.lookup place).map fun _ => e else entries.lookup q := by
  induction entries with
  | nil => simp
  | cons x entries ih =>
      obtain ⟨p, old⟩ := x
      rw [List.map_cons]
      by_cases hp : p = place
      · subst hp
        rw [if_pos rfl, lookup_cons_ite, lookup_cons_ite, lookup_cons_ite, if_pos rfl, ih]
        by_cases hq : q = p <;> simp [hq]
      · rw [if_neg hp, lookup_cons_ite, lookup_cons_ite, lookup_cons_ite, if_neg (Ne.symm hp), ih]
        by_cases hq : q = place
        · subst hq
          simp [Ne.symm hp]
        · simp [hq]

/-- An entry that is put at a place is found there, and all others stay. -/
theorem lookup_put (s : Tree) (hplace : place ≠ []) (e : Entry) (q : List String) :
    (s.put place e).lookup q = if q = place then some e else s.lookup q := by
  cases q with
  | nil => rw [if_neg (Ne.symm hplace)]; rfl
  | cons name names =>
      show (s.put place e).entries.lookup (name :: names) = _
      rw [put]
      split
      · next hsome =>
        obtain ⟨old, hold⟩ := Option.isSome_iff_exists.mp hsome
        rw [lookup_replace, hold]
        rfl
      · next hnone =>
        have hfree : s.entries.lookup place = none := Option.not_isSome_iff_eq_none.mp hnone
        rw [List.lookup_append, lookup_cons_ite]
        by_cases hq : name :: names = place
        · rw [if_pos hq, if_pos hq, hq, hfree, Option.none_or]
        · rw [if_neg hq, if_neg hq, List.lookup_nil, Option.or_none]
          rfl

theorem ne_nil_of_lookup_ne (h : s.lookup place ≠ some .directory) : place ≠ [] := by
  rintro rfl
  exact h rfl

/-! ### Paths -/

/-- Whether all directories of a tree are directories of another one. -/
def KeepsDirectories (s t : Tree) : Prop :=
  ∀ place, s.lookup place = some .directory → t.lookup place = some .directory

theorem keepsDirectories_put (hplace : s.lookup place ≠ some .directory) (e : Entry) :
    s.KeepsDirectories (s.put place e) := by
  intro q hq
  rw [lookup_put s (ne_nil_of_lookup_ne hplace), if_neg]
  · exact hq
  · rintro rfl
    exact hplace hq

theorem walk_of_keepsDirectories (h : s.KeepsDirectories t) {names : List String}
    (hwalk : s.walk place names = .ok target) : t.walk place names = .ok target := by
  induction names generalizing place with
  | nil => exact hwalk
  | cons name names ih =>
      rw [walk] at hwalk ⊢
      cases hentry : s.lookup place with
      | none => simp [hentry] at hwalk
      | some e =>
          cases e with
          | file content => simp [hentry] at hwalk
          | directory =>
              rw [h place hentry]
              simp only [hentry] at hwalk ⊢
              split at hwalk
              · next hstay => rw [if_pos hstay]; exact ih hwalk
              · next hstay =>
                rw [if_neg hstay]
                split at hwalk
                · next hup => rw [if_pos hup]; exact ih hwalk
                · next hup =>
                  rw [if_neg hup]
                  split at hwalk
                  · cases hwalk
                  · next hlong => rw [if_neg hlong]; exact ih hwalk

theorem locate_of_keepsDirectories (h : s.KeepsDirectories t)
    (hlocate : s.locate path = .ok place) : t.locate path = .ok place := by
  rw [locate] at hlocate ⊢
  split at hlocate
  · cases hlocate
  · next hpath => rw [if_neg hpath]; exact walk_of_keepsDirectories h hlocate

/-! ### Files at paths -/

/-- Whether a path leads to a file at a place with some contents. -/
structure HoldsFile (s : Tree) (path : String) (place : List String) (content : Bytes) :
    Prop where
  usable : isUnusable path = false
  locate : s.locate path = .ok place
  lookup : s.lookup place = some (.file content)

theorem HoldsFile.contentAt (h : s.HoldsFile path place content) :
    s.contentAt path = .ok content := by
  simp only [Tree.contentAt, h.usable, h.locate, h.lookup]
  rfl

theorem placeToWrite_eq_ok (h : s.placeToWrite path = .ok place) :
    isUnusable path = false ∧ s.locate path = .ok place ∧
      s.lookup place ≠ some .directory := by
  rw [placeToWrite] at h
  split at h
  · cases h
  · next husable =>
    refine ⟨eq_false_of_ne_true husable, ?_⟩
    cases hlocate : s.locate path with
    | error e => simp [hlocate] at h
    | ok q =>
        simp only [hlocate] at h
        split at h
        · cases h
        · next hfree =>
          obtain rfl := Except.ok.inj h
          exact ⟨rfl, hfree⟩

theorem holdsFile_put (h : s.placeToWrite path = .ok place) (content : Bytes) :
    (s.put place (.file content)).HoldsFile path place content := by
  obtain ⟨husable, hlocate, hfree⟩ := placeToWrite_eq_ok h
  refine ⟨husable, locate_of_keepsDirectories (keepsDirectories_put hfree _) hlocate, ?_⟩
  rw [lookup_put s (ne_nil_of_lookup_ne hfree), if_pos rfl]

/-- What is written to a path is read from it. -/
theorem contentAt_of_store (h : s.store path content = .ok t) :
    t.contentAt path = .ok content := by
  rw [store] at h
  cases hplace : s.placeToWrite path with
  | error e => simp [hplace, Except.map] at h
  | ok place =>
      rw [hplace] at h
      exact Except.ok.inj h ▸ (holdsFile_put hplace content).contentAt

/-! ### Growth -/

/-- What the file at a place holds; nothing where there is none. -/
def heldAt (s : Tree) (place : List String) : Bytes :=
  match s.lookup place with
  | some (.file content) => content
  | _ => []

theorem heldAt_of_lookup (h : s.lookup place = some (.file content)) :
    s.heldAt place = content := by
  rw [heldAt, h]

theorem heldAt_put_file (hplace : place ≠ []) (content : Bytes) (q : List String) :
    (s.put place (.file content)).heldAt q = if q = place then content else s.heldAt q := by
  rw [heldAt, lookup_put s hplace]
  by_cases hq : q = place
  · rw [if_pos hq, if_pos hq]
  · rw [if_neg hq, if_neg hq, heldAt]

/-- Whether a tree comes from another one without the loss of a directory or of text in a file. -/
structure Grows (s t : Tree) : Prop where
  directory : s.KeepsDirectories t
  file : ∀ place content, s.lookup place = some (.file content) →
    ∃ more, t.lookup place = some (.file (content ++ more))

theorem Grows.refl (s : Tree) : s.Grows s :=
  ⟨fun _ h => h, fun _ content h => ⟨[], by rw [List.append_nil, h]⟩⟩

theorem Grows.trans (h : s.Grows t) (h' : t.Grows u) : s.Grows u := by
  refine ⟨fun place hplace => h'.directory place (h.directory place hplace), ?_⟩
  intro place content hfile
  obtain ⟨more, hmore⟩ := h.file place content hfile
  obtain ⟨rest, hrest⟩ := h'.file place _ hmore
  exact ⟨more ++ rest, by rw [← List.append_assoc, hrest]⟩

theorem grows_put_of_file (hplace : s.lookup place ≠ some .directory) (more : Bytes) :
    s.Grows (s.put place (.file (s.heldAt place ++ more))) := by
  refine ⟨keepsDirectories_put hplace _, fun q content hq => ?_⟩
  rw [lookup_put s (ne_nil_of_lookup_ne hplace)]
  by_cases hp : q = place
  · subst hp
    exact ⟨more, by rw [if_pos rfl, heldAt_of_lookup hq]⟩
  · exact ⟨[], by rw [if_neg hp, hq, List.append_nil]⟩

theorem extend_eq (h : s.placeToWrite path = .ok place) (more : Bytes) :
    s.extend path more = .ok (s.put place (.file (s.heldAt place ++ more))) := by
  obtain ⟨-, -, hfree⟩ := placeToWrite_eq_ok h
  rw [extend, h, heldAt]
  cases hentry : s.lookup place with
  | none => simp [Except.map, hentry]
  | some e =>
      cases e with
      | directory => exact absurd hentry hfree
      | file content => simp [Except.map, hentry]

/-- Whether a tree comes from another one by adding to the file at the place of a path. -/
structure Extends (s t : Tree) (path : String) (place : List String) (more : Bytes) : Prop where
  grows : s.Grows t
  holdsFile : t.HoldsFile path place (s.heldAt place ++ more)
  heldAt : ∀ q, t.heldAt q = s.heldAt q ++ if q = place then more else []

theorem extends_put (h : s.placeToWrite path = .ok place) (more : Bytes) :
    s.Extends (s.put place (.file (s.heldAt place ++ more))) path place more := by
  obtain ⟨-, -, hfree⟩ := placeToWrite_eq_ok h
  refine ⟨grows_put_of_file hfree more, holdsFile_put h _, fun q => ?_⟩
  rw [heldAt_put_file (ne_nil_of_lookup_ne hfree)]
  split
  · next hq => rw [hq]
  · rw [List.append_nil]

/-- Adding to a path leaves a file there, with what was added at its end, and no other file
changes. -/
theorem exists_extends (h : s.extend path content = .ok t) :
    ∃ place, s.Extends t path place content := by
  cases hplace : s.placeToWrite path with
  | error e => simp [extend, hplace, Except.map] at h
  | ok place =>
      obtain rfl := Except.ok.inj ((extend_eq hplace content).symm.trans h)
      exact ⟨place, extends_put hplace content⟩

/-- A path that leads to a file can be added to. -/
theorem HoldsFile.exists_extends (h : s.HoldsFile path place content) (more : Bytes) :
    ∃ t, s.extend path more = .ok t ∧ s.Extends t path place more := by
  have hplace : s.placeToWrite path = .ok place := by
    simp only [placeToWrite, h.usable, h.locate, h.lookup]
    rfl
  exact ⟨_, extend_eq hplace more, extends_put hplace more⟩

/-! ### Directories -/

/-- Whether a tree comes from another one by making directories. -/
structure KeepsFiles (s t : Tree) : Prop where
  directory : s.KeepsDirectories t
  file : ∀ place content,
    t.lookup place = some (.file content) ↔ s.lookup place = some (.file content)

theorem KeepsFiles.refl (s : Tree) : s.KeepsFiles s := ⟨fun _ h => h, fun _ _ => .rfl⟩

theorem KeepsFiles.trans (h : s.KeepsFiles t) (h' : t.KeepsFiles u) : s.KeepsFiles u :=
  ⟨fun place hplace => h'.directory place (h.directory place hplace),
    fun place content => (h'.file place content).trans (h.file place content)⟩

theorem KeepsFiles.grows (h : s.KeepsFiles t) : s.Grows t :=
  ⟨h.directory, fun place content hfile =>
    ⟨[], by rw [List.append_nil, (h.file place content).mpr hfile]⟩⟩

theorem KeepsFiles.heldAt (h : s.KeepsFiles t) (place : List String) :
    t.heldAt place = s.heldAt place := by
  have hfile := h.file place
  rw [Tree.heldAt, Tree.heldAt]
  split
  · next content ht => rw [(hfile content).mp ht]
  · next hnone =>
    split
    · next content hs => exact absurd ((hfile content).mpr hs) (hnone content)
    · rfl

theorem keepsFiles_put_directory (hfree : s.lookup place = none) :
    s.KeepsFiles (s.put place .directory) := by
  have hne : s.lookup place ≠ some .directory := by rw [hfree]; nofun
  refine ⟨keepsDirectories_put hne _, fun q content => ?_⟩
  rw [lookup_put s (ne_nil_of_lookup_ne hne)]
  split
  · next hq => simp [hq, hfree]
  · rfl

theorem keepsFiles_makeDirectory (h : s.makeDirectory path = .ok t) : s.KeepsFiles t := by
  rw [makeDirectory] at h
  split at h
  · cases h
  · cases hlocate : s.locate path with
    | error e => simp [hlocate] at h
    | ok place =>
        simp only [hlocate] at h
        split at h
        · cases h
        · next hfree =>
          obtain rfl := Except.ok.inj h
          exact keepsFiles_put_directory (Option.not_isSome_iff_eq_none.mp hfree)

theorem keepsFiles_ensureDirectory (s : Tree) (path : String) :
    s.KeepsFiles (s.ensureDirectory path).1 := by
  rw [ensureDirectory]
  split
  · next hmade => exact keepsFiles_makeDirectory hmade
  · exact .refl s

theorem keepsFiles_makeWithParents (fuel : Nat) (s : Tree) (path : String) :
    s.KeepsFiles (s.makeWithParents fuel path).1 := by
  induction fuel generalizing s path with
  | zero => exact keepsFiles_ensureDirectory s path
  | succ fuel ih =>
      have hfirst := keepsFiles_ensureDirectory s path
      rw [makeWithParents]
      split
      · next t p hmade =>
        rw [hmade] at hfirst
        have hparent := ih t (parentOf path)
        dsimp only
        split
        · exact hfirst
        · split
          · next hparents =>
            rw [hparents] at hparent
            exact (hfirst.trans hparent).trans (keepsFiles_ensureDirectory _ path)
          · exact hfirst.trans hparent
      · exact hfirst

end Tree

end MarkdownAdf.Files
