import MarkdownAdf.Proofs.Files.Directories
import MarkdownAdf.Proofs.Options.RoundTrip

/-!
# How saving ends

Saving options writes the whole file below directories that are there, and no other file changes, or
it fails with an error of the file system and leaves every file as it was. On a path of plain names
it fails only where the surroundings refuse, a file is in the way, or the path is a directory.
Options with an integer too long to be written are not saved and touch nothing.
-/

namespace MarkdownAdf

namespace Files.Tree

variable {s t u : Tree} {path : String} {content : Bytes}

/-- Whether a tree comes from another one by writing the file at a path, whose directory is made if
it is missing. -/
structure Rewrites (s t : Tree) (path : String) (place : List String) (content : Bytes) :
    Prop where
  holdsFile : t.HoldsFile path place content
  parent : t.isDirectory (parentOf path) = true
  above : t.DirectoriesAbove place
  directories : s.KeepsDirectories t
  others : ∀ q, q ≠ place → ∀ other,
    t.lookup q = some (.file other) ↔ s.lookup q = some (.file other)

/-- A file that is written when directories are made leaves all other files as they were. -/
theorem KeepsFiles.rewrites_of_store (hfiles : s.KeepsFiles u) (h : u.store path content = .ok t) :
    ∃ place, s.Rewrites t path place content := by
  rw [store] at h
  cases hplace : u.placeToWrite path with
  | error e => simp [hplace, Except.map] at h
  | ok place =>
      obtain rfl : u.put place (.file content) = t := by simpa [hplace, Except.map] using h
      have hholds := holdsFile_put hplace content
      obtain ⟨-, hlocate, hfree⟩ := placeToWrite_eq_ok hplace
      have hkeeps := keepsDirectories_put hfree (.file content)
      refine ⟨place, hholds, isDirectory_parentOf hholds.locate,
        directoriesAbove_of_locate hholds.locate, ?_, ?_⟩
      · exact fun q hq => hkeeps q (hfiles.directory q hq)
      · intro q hq other
        rw [lookup_put u (ne_nil_of_lookup_ne hfree), if_neg hq]
        exact hfiles.file q other

theorem store_ne_unusable (husable : isUnusable path = false) :
    s.store path content ≠ .error .unusablePath := by
  rw [store, placeToWrite, husable]
  cases s.locate path with
  | error t => simp [Except.map]
  | ok place =>
      cases h : s.lookup place with
      | none => simp [h, Except.map]
      | some e => cases e <;> simp [h, Except.map]

/-- What a rewritten path met: nothing but directories above it, and no directory at it. -/
theorem Rewrites.isFree {place : List String} (h : s.Rewrites t path place content) :
    (∀ above, above <+: place → above ≠ place → ∀ other, s.lookup above ≠ some (.file other)) ∧
      s.lookup place ≠ some .directory := by
  constructor
  · intro above ha hne other hfile
    cases ((h.others above hne other).mpr hfile).symm.trans (h.above above ha hne)
  · intro hdirectory
    cases (h.directories place hdirectory).symm.trans h.holdsFile.lookup

end Files.Tree

namespace Options

open Files (directoryOf namesOf)

variable {s t u : Files.Tree} {refusals : Files.Refusals} {path : String} {content : Bytes}
  {o : Options}

/-! ### The errors -/

theorem directoryFailure_eq {directory : String} {a : Files.AccessError} (h : a ≠ .unusablePath) :
    directoryFailure directory a = .filesystem ⟨directory, "create_directory", some a.text⟩ := by
  cases a with
  | unusablePath => exact absurd rfl h
  | trouble | refused => rfl

theorem exists_writeFailure_eq (path : String) {a : Files.AccessError}
    (h : a ≠ .unusablePath) :
    ∃ reason, writeFailure path a = .filesystem ⟨path, "write", some reason⟩ := by
  cases a with
  | unusablePath => exact absurd rfl h
  | trouble t p => exact ⟨_, rfl⟩
  | refused permission text => cases permission <;> exact ⟨_, rfl⟩

/-- Whether an error is about making the directory of a path or about writing its file. -/
def IsSaveFailure (path : String) : FileFailure → Prop
  | .filesystem e =>
    (e.path = directoryOf path ∧ e.operation = "create_directory") ∨
      (e.path = path ∧ e.operation = "write")
  | _ => False

/-! ### The directory -/

theorem isUnusable_directoryOf (h : Files.Tree.isUnusable path = false) :
    Files.Tree.isUnusable (directoryOf path) = false := Files.isUnusable_splitLast h

theorem saveDirectory_spec (husable : Files.Tree.isUnusable path = false)
    (hmaking : refusals.makingDirectories ≠ some .unusablePath) :
    s.KeepsFiles (saveDirectory s refusals path).1 ∧
      ∀ failure, (saveDirectory s refusals path).2 = .error failure →
        IsSaveFailure path failure := by
  have hfailure (a : Files.AccessError) (ha : a ≠ .unusablePath) :
      IsSaveFailure path (directoryFailure (directoryOf path) a) := by
    rw [directoryFailure_eq ha]
    exact .inl ⟨rfl, rfl⟩
  rw [saveDirectory]
  split
  · exact ⟨.refl s, nofun⟩
  · cases hrefusal : refusals.makingDirectories with
    | some a =>
        refine ⟨.refl s, ?_⟩
        rintro _ ⟨⟩
        exact hfailure a fun ha => hmaking (hrefusal.trans (congrArg some ha))
    | none =>
        have hmade := Files.Tree.ensureDirectories_ne_unusable (s := s)
          (directoryOf path).length (isUnusable_directoryOf husable)
        have hfiles := Files.Tree.keepsFiles_ensureDirectories
          (directoryOf path).length s (directoryOf path)
        dsimp only
        generalize s.ensureDirectories (directoryOf path).length (directoryOf path) = result
          at hmade hfiles
        obtain ⟨t, made⟩ := result
        refine ⟨hfiles, fun failure h => ?_⟩
        cases made with
        | ok _ => cases h
        | error a =>
            obtain rfl := Except.error.inj h
            exact hfailure a fun ha => hmade (congrArg Except.error ha)

/-- The directory of a path of plain names is made unless it is refused or a file is in the way. -/
theorem saveDirectory_eq_ok (husable : Files.Tree.isUnusable path = false)
    (hnames : ∀ name ∈ namesOf path, Files.Tree.IsName name)
    (hmaking : directoryOf path = "" ∨ refusals.makingDirectories = none)
    (hfree : s.IsFree (namesOf path).dropLast) :
    ∃ t, saveDirectory s refusals path = (t, .ok ()) ∧
      s.MakesWay t (namesOf path).dropLast := by
  obtain ⟨hdirectory, hsingle⟩ | ⟨hdirectory, hbelow⟩ := Files.Tree.splitLast_of_isName hnames
  · rw [hsingle] at hfree ⊢
    exact ⟨s, if_pos hdirectory, s.directoriesAbove_nil, rfl, fun _ _ => rfl⟩
  · change directoryOf path ≠ "" at hdirectory
    change namesOf path = namesOf (directoryOf path) ++ _ at hbelow
    have hdrop : (namesOf path).dropLast = namesOf (directoryOf path) := by
      rw [hbelow, List.dropLast_concat]
    have hnames' : ∀ name ∈ namesOf (directoryOf path), Files.Tree.IsName name := fun name hname =>
      hnames name (by rw [hbelow]; exact List.mem_append_left _ hname)
    rw [hdrop] at hfree ⊢
    have hfuel := Files.length_namesOf_le (directoryOf path)
    obtain ⟨t, hmade, hway⟩ := Files.Tree.ensureDirectories_eq_ok
      (isUnusable_directoryOf husable) hnames' hfuel hfree
    refine ⟨t, ?_, hway⟩
    rw [saveDirectory, if_neg hdirectory, hmaking.resolve_left hdirectory]
    dsimp only
    rw [hmade]
    rfl

/-! ### The file -/

/-- The ends that saving can come to: the file of the path holds the whole text, or no file has
changed, or the options have no text and nothing is done. -/
inductive SaveEnds (s : Files.Tree) (path : String) (o : Options) :
    Files.Tree × Except FileFailure Unit → Prop where
  | saved {t place} (hshort : (Value.map o.toMapping).isShowable = true)
      (h : s.Rewrites t path place (Yaml.write (.map o.toMapping)).toUTF8.toList) :
      SaveEnds s path o (t, .ok ())
  | failed {t failure} (hfiles : s.KeepsFiles t) (hfailure : IsSaveFailure path failure) :
      SaveEnds s path o (t, .error failure)
  | longNumber (hlong : (Value.map o.toMapping).isShowable = false) :
      SaveEnds s path o (s, .error (.options .longNumber))

/-- What writing the file of a path gives, once its directory is there. -/
def stored (t : Files.Tree) (refusals : Files.Refusals) (path : String) (content : Bytes) :
    Except Files.AccessError Files.Tree :=
  Files.unlessRefused refusals.opening (t.store path content)

theorem saveText_of_stored (h : saveDirectory s refusals path = (t, .ok ()))
    (hstored : stored t refusals path content = .ok u) :
    saveText s refusals path content = (u, .ok ()) := by
  rw [stored] at hstored
  simp only [saveText, h, hstored]

theorem saveText_of_not_stored {a : Files.AccessError}
    (h : saveDirectory s refusals path = (t, .ok ()))
    (hstored : stored t refusals path content = .error a) :
    saveText s refusals path content = (t, .error (writeFailure path a)) := by
  rw [stored] at hstored
  simp only [saveText, h, hstored]

theorem saveText_of_error {failure : FileFailure}
    (h : saveDirectory s refusals path = (t, .error failure)) :
    saveText s refusals path content = (t, .error failure) := by
  simp only [saveText, h]

/-- A file that cannot be written is not so for its path, if the path can be used. -/
theorem ne_unusable_of_stored {a : Files.AccessError} (husable : Files.Tree.isUnusable path = false)
    (hopening : refusals.opening ≠ some .unusablePath)
    (hstored : stored t refusals path content = .error a) : a ≠ .unusablePath := by
  rintro rfl
  rw [stored] at hstored
  cases hrefusal : refusals.opening with
  | none =>
      rw [hrefusal] at hstored
      exact Files.Tree.store_ne_unusable husable hstored
  | some a =>
      rw [hrefusal] at hstored
      exact hopening (hrefusal.trans (congrArg some (Except.error.inj hstored)))

/-- Saving options that can be written comes to one of its ends, whatever the tree holds. -/
theorem saveEnds_saveText (husable : Files.Tree.isUnusable path = false)
    (hopening : refusals.opening ≠ some .unusablePath)
    (hmaking : refusals.makingDirectories ≠ some .unusablePath)
    (hshort : (Value.map o.toMapping).isShowable = true) :
    SaveEnds s path o (saveText s refusals path o.toText.toUTF8.toList) := by
  obtain ⟨hfiles, hfailure⟩ := saveDirectory_spec (s := s) husable hmaking
  cases hmade : saveDirectory s refusals path with
  | mk t made =>
      rw [hmade] at hfiles hfailure
      cases made with
      | error failure =>
          rw [saveText_of_error hmade]
          exact .failed hfiles (hfailure failure rfl)
      | ok _ =>
          cases hstored : stored t refusals path o.toText.toUTF8.toList with
          | ok u =>
              obtain ⟨place, h⟩ :=
                hfiles.rewrites_of_store (Files.unlessRefused_eq_ok_iff.mp hstored).2
              rw [saveText_of_stored hmade hstored]
              exact .saved hshort h
          | error a =>
              have ha := ne_unusable_of_stored husable hopening hstored
              obtain ⟨reason, hreason⟩ := exists_writeFailure_eq path ha
              rw [saveText_of_not_stored hmade hstored, hreason]
              exact .failed hfiles (.inr ⟨rfl, rfl⟩)

/-- Saving comes to one of its ends, whatever the tree and the options hold. -/
theorem saveEnds_save (husable : Files.Tree.isUnusable path = false)
    (hopening : refusals.opening ≠ some .unusablePath)
    (hmaking : refusals.makingDirectories ≠ some .unusablePath) :
    SaveEnds s path o (save s refusals path o) := by
  rw [save]
  split
  · next hshort => exact saveEnds_saveText husable hopening hmaking hshort
  · next hlong => exact .longNumber (Bool.eq_false_iff.mpr hlong)

/-- Saving a text to a path of plain names succeeds unless it is refused, a file is in the way, or
the path is a directory. -/
theorem saveText_eq_ok (husable : Files.Tree.isUnusable path = false)
    (hnames : ∀ name ∈ namesOf path, Files.Tree.IsName name) (hopening : refusals.opening = none)
    (hmaking : directoryOf path = "" ∨ refusals.makingDirectories = none)
    (hfree : s.IsFree (namesOf path).dropLast)
    (hpath : s.lookup (namesOf path) ≠ some .directory) :
    ∃ t, saveText s refusals path content = (t, .ok ()) := by
  obtain ⟨t, hmade, hway⟩ := saveDirectory_eq_ok husable hnames hmaking hfree
  have habove : t.DirectoriesAbove (namesOf path) := by
    rw [← List.dropLast_concat_getLast (Files.namesOf_ne_nil path)]
    exact Files.Tree.directoriesAbove_concat.mpr ⟨hway.above, hway.directory⟩
  have hkept : t.lookup (namesOf path) = s.lookup (namesOf path) :=
    hway.others _ (Files.not_prefix_dropLast path)
  have hplace : t.placeToWrite path = .ok (namesOf path) := by
    rw [Files.Tree.placeToWrite, husable, (Files.Tree.locate_eq_ok_iff hnames).mpr ⟨rfl, habove⟩]
    simp only [Bool.false_eq_true, if_false, hkept]
  have hstored : stored t refusals path content = .ok (t.put (namesOf path) (.file content)) := by
    rw [stored, hopening, Files.Tree.store, hplace, Files.unlessRefused, Except.map]
  exact ⟨_, saveText_of_stored hmade hstored⟩

/-- Saving that succeeds met no refusal. -/
theorem not_refused_of_saveText (h : saveText s refusals path content = (t, .ok ())) :
    refusals.opening = none ∧ (directoryOf path = "" ∨ refusals.makingDirectories = none) := by
  cases hmade : saveDirectory s refusals path with
  | mk u made =>
      cases made with
      | error failure =>
          rw [saveText_of_error hmade] at h
          cases h
      | ok _ =>
          constructor
          · cases hstored : stored u refusals path content with
            | ok v => exact (Files.unlessRefused_eq_ok_iff.mp hstored).1
            | error a =>
                rw [saveText_of_not_stored hmade hstored] at h
                cases h
          · by_contra hrefused
            rw [not_or] at hrefused
            obtain ⟨e, he⟩ := Option.ne_none_iff_exists'.mp hrefused.2
            rw [saveDirectory, if_neg hrefused.1, he] at hmade
            cases hmade

/-! ### The written entries -/

/-- Whether entries list the options that are set, and no others, by their names and in their order,
each with the value under which it is written. -/
structure Lists (o : Options) (entries : List (Value × Value)) : Prop where
  inOrder : (entries.map (·.1)).Sublist (Setting.all.map fun x => .str x.name)
  values : ∀ (x : Setting) (v : Value),
    (.str x.name, v) ∈ entries ↔ o.get x ≠ .null ∧ v = written (o.get x)

theorem lists_toMapping (o : Options) : o.Lists o.toMapping := by
  constructor
  · rw [toMapping, List.map_map]
    exact (List.filter_sublist (l := Setting.all)).map _
  · intro x v
    simp only [toMapping, List.mem_map, List.mem_filter, Setting.mem_all, true_and, Prod.mk.injEq,
      Value.str.injEq, decide_eq_true_eq]
    constructor
    · rintro ⟨y, hy, hname, rfl⟩
      obtain rfl : y = x := by simpa using congrArg Setting.ofName? hname
      exact ⟨hy, rfl⟩
    · rintro ⟨hx, rfl⟩
      exact ⟨x, hx, rfl, rfl⟩

end Options

end MarkdownAdf
