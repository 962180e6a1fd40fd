import MarkdownAdf.Proofs.Files.Path
import MarkdownAdf.Proofs.Files.Tree

/-!
# The directories above a place

What a path leads to has directories above it, and the directory of the path is the nearest of them.
Along plain names, every directory that is missing can be made unless a file is in the way, and
nothing else changes.
-/

namespace MarkdownAdf.Files

/-! ### Cutting paths that can be used -/

theorem isUnusable_splitLast {path : String} (h : Tree.isUnusable path = false) :
    Tree.isUnusable (splitLast path).1 = false := by
  obtain ⟨front, last, hpath, -, -, hcut⟩ := splitLast_eq path
  have hfront (c : Char) (hc : c ∈ dropEndSlashes front) : c ∈ path.toList := by
    rw [hpath]
    refine List.mem_append_left last ?_
    rw [dropEndSlashes] at hc
    split at hc
    · exact hc
    · exact List.mem_reverse.mp ((List.dropWhile_sublist _).subset (List.mem_reverse.mp hc))
  have hnul : '\x00' ∉ path.toList := by simpa [Tree.isUnusable] using h
  simpa [hcut, Tree.isUnusable] using mt (hfront '\x00') hnul

theorem isUnusable_splitName {path : String} (h : Tree.isUnusable path = false) :
    Tree.isUnusable (Tree.splitName path).1 = false := by
  rw [Tree.splitName]
  dsimp only
  split
  · exact isUnusable_splitLast (isUnusable_splitLast h)
  · exact isUnusable_splitLast h

namespace Tree

variable {s t u : Tree} {path : String} {place target : List String}

/-! ### Walks -/

theorem walk_append (s : Tree) (place names rest : List String) :
    s.walk place (names ++ rest) = (s.walk place names).bind fun q => s.walk q rest := by
  fun_induction s.walk place names with
  | case1 place => rfl
  | case2 place name names hentry => rw [List.cons_append, walk, hentry]; rfl
  | case3 place name names content hentry => rw [List.cons_append, walk, hentry]; rfl
  | case4 place name names hentry hstay ih =>
      rw [List.cons_append, walk, hentry]
      simp only [hstay, if_true, ih]
  | case5 place names hentry hstay ih =>
      rw [List.cons_append, walk, hentry]
      simp only [if_neg hstay, if_true, ih]
  | case6 place name names hentry hstay hup hlong =>
      rw [List.cons_append, walk, hentry]
      simp only [if_neg hstay, if_neg hup, if_pos hlong]
      rfl
  | case7 place name names hentry hstay hup hlong ih =>
      rw [List.cons_append, walk, hentry]
      simp only [if_neg hstay, if_neg hup, if_neg hlong, ih]

/-- Going on from a place takes a directory. -/
theorem lookup_of_walk_cons {name : String} {names : List String}
    (h : s.walk place (name :: names) = .ok target) : s.lookup place = some .directory := by
  rw [walk] at h
  cases hentry : s.lookup place with
  | none => simp [hentry] at h
  | some e =>
      cases e with
      | file content => simp [hentry] at h
      | directory => rfl

/-- Empty names lead nowhere. -/
theorem walk_blanks (s : Tree) (k : Nat) : s.walk [] (List.replicate k "") = .ok [] := by
  induction k with
  | zero => rfl
  | succ k ih => rw [List.replicate_succ]; exact ih

/-- Whether everything above a place is a directory. -/
def DirectoriesAbove (s : Tree) (place : List String) : Prop :=
  ∀ above, above <+: place → above ≠ place → s.lookup above = some .directory

theorem directoriesAbove_nil (s : Tree) : s.DirectoriesAbove [] :=
  fun _ h hne => absurd (List.prefix_nil.mp h) hne

theorem directoriesAbove_concat {name : String} :
    s.DirectoriesAbove (place ++ [name]) ↔
      s.DirectoriesAbove place ∧ s.lookup place = some .directory := by
  constructor
  · intro h
    have hbelow (above : List String) (ha : above <+: place) :
        s.lookup above = some .directory := by
      refine h above (ha.trans (List.prefix_append place _)) fun heq => ?_
      have hlength := ha.length_le
      rw [heq, List.length_append] at hlength
      exact absurd hlength (by simp)
    exact ⟨fun above ha _ => hbelow above ha, hbelow place (List.prefix_refl place)⟩
  · rintro ⟨habove, hplace⟩ above ha hne
    obtain heq | ha := List.prefix_concat_iff.mp ha
    · exact absurd heq hne
    · by_cases heq : above = place
      · rw [heq, hplace]
      · exact habove above ha heq

theorem directoriesAbove_singleton (s : Tree) (name : String) : s.DirectoriesAbove [name] :=
  directoriesAbove_concat.mpr ⟨s.directoriesAbove_nil, rfl⟩

theorem DirectoriesAbove.shorten (h : s.DirectoriesAbove place) (htarget : target <+: place) :
    s.DirectoriesAbove target := by
  intro above ha hne
  refine h above (ha.trans htarget) fun heq => hne ?_
  subst heq
  exact ha.eq_of_length (Nat.le_antisymm ha.length_le htarget.length_le)

theorem DirectoriesAbove.of_keepsDirectories (h : s.DirectoriesAbove place)
    (hkeeps : s.KeepsDirectories t) : t.DirectoriesAbove place :=
  fun above ha hne => hkeeps above (h above ha hne)

/-- A walk ends below directories if it starts below directories. -/
theorem directoriesAbove_of_walk {names : List String} (h : s.walk place names = .ok target)
    (habove : s.DirectoriesAbove place) : s.DirectoriesAbove target := by
  fun_induction s.walk place names with
  | case1 place => exact Except.ok.inj h ▸ habove
  | case2 | case3 | case6 => cases h
  | case4 place name names hentry hstay ih => exact ih h habove
  | case5 place names hentry hstay ih =>
      have hup : place.dropLast <+: place := List.dropLast_prefix place
      exact ih h (habove.shorten hup)
  | case7 place name names hentry hstay hup hlong ih =>
      exact ih h (directoriesAbove_concat.mpr ⟨habove, hentry⟩)

theorem walk_of_locate (h : s.locate path = .ok place) : s.walk [] (namesOf path) = .ok place := by
  rw [locate] at h
  split at h
  · cases h
  · exact h

theorem directoriesAbove_of_locate (h : s.locate path = .ok place) : s.DirectoriesAbove place :=
  directoriesAbove_of_walk (walk_of_locate h) s.directoriesAbove_nil

theorem isDirectory_of_walk (hpath : path ≠ "") (h : s.walk [] (namesOf path) = .ok place)
    (hplace : s.lookup place = some .directory) : s.isDirectory path = true := by
  rw [isDirectory, locate, if_neg hpath, h]
  exact decide_eq_true hplace

/-- A path that leads to a place has a directory. -/
theorem isDirectory_parentOf (h : s.locate path = .ok place) :
    s.isDirectory (parentOf path) = true := by
  have hwalk := walk_of_locate h
  have hcut := isCut_splitLast path
  rw [parentOf, directoryOf]
  generalize (splitLast path).1 = directory at hcut
  generalize (splitLast path).2 = name at hcut
  cases hcut with
  | single => rfl
  | below k hdirectory hnames =>
      rw [hnames, List.append_assoc, walk_append] at hwalk
      cases hmid : s.walk [] (namesOf directory) with
      | error e => rw [hmid] at hwalk; cases hwalk
      | ok mid =>
          rw [hmid] at hwalk
          obtain ⟨first, rest, hrest⟩ := List.exists_cons_of_ne_nil
            (show List.replicate k "" ++ [name] ≠ [] by simp)
          rw [hrest] at hwalk
          rw [if_neg hdirectory]
          exact isDirectory_of_walk hdirectory hmid (lookup_of_walk_cons hwalk)
  | root k hdirectory habove =>
      rw [if_neg hdirectory]
      exact isDirectory_of_walk hdirectory (habove ▸ s.walk_blanks (k + 2)) rfl

/-! ### Directories made one below the other -/

/-- What making a directory with those above it can come to, after those above it are made. -/
theorem ensureDirectories_cases (fuel : Nat) (s : Tree) (path : String) :
    let above := s.ensureDirectories fuel (splitName path).1
    s.ensureDirectories (fuel + 1) path = s.ensureDirectory path ∨
      s.ensureDirectories (fuel + 1) path = above ∨
      s.ensureDirectories (fuel + 1) path = (above.1, .ok ()) ∨
      s.ensureDirectories (fuel + 1) path = above.1.ensureDirectory path := by
  rw [ensureDirectories]
  generalize splitName path = cut
  obtain ⟨head, name⟩ := cut
  dsimp only
  generalize ensureDirectories fuel s head = above
  obtain ⟨t, made⟩ := above
  dsimp only
  split
  · exact .inl rfl
  · refine .inr ?_
    split
    · split <;> simp
    · split <;> simp
    · exact .inl rfl

theorem keepsFiles_ensureDirectories (fuel : Nat) (s : Tree) (path : String) :
    s.KeepsFiles (s.ensureDirectories fuel path).1 := by
  induction fuel generalizing s path with
  | zero => exact keepsFiles_ensureDirectory s path
  | succ fuel ih =>
      have habove := ih s (splitName path).1
      obtain h | h | h | h := ensureDirectories_cases fuel s path <;> rw [h]
      · exact keepsFiles_ensureDirectory s path
      · exact habove
      · exact habove
      · exact habove.trans (keepsFiles_ensureDirectory _ path)

/-- Making a directory fails for an unusable path only if the path is one. -/
theorem ensureDirectory_ne_unusable (husable : isUnusable path = false) :
    (s.ensureDirectory path).2 ≠ .error .unusablePath := by
  have hmake : s.makeDirectory path ≠ .error .unusablePath := by
    rw [makeDirectory, husable]
    cases s.locate path with
    | error t => simp
    | ok place => by_cases h : (s.lookup place).isSome = true <;> simp [h]
  rw [ensureDirectory]
  cases hmade : s.makeDirectory path with
  | ok t => simp
  | error e =>
      rw [hmade] at hmake
      dsimp only
      split
      · simp
      · exact fun h => hmake (congrArg Except.error (Except.error.inj h))

theorem ensureDirectories_ne_unusable (fuel : Nat) (husable : isUnusable path = false) :
    (s.ensureDirectories fuel path).2 ≠ .error .unusablePath := by
  induction fuel generalizing s path with
  | zero => exact ensureDirectory_ne_unusable husable
  | succ fuel ih =>
      have habove := ih (s := s) (isUnusable_splitName husable)
      obtain h | h | h | h := ensureDirectories_cases fuel s path <;> rw [h]
      · exact ensureDirectory_ne_unusable husable
      · exact habove
      · nofun
      · exact ensureDirectory_ne_unusable husable

/-! ### Plain names -/

/-- Whether a text names an entry of the directory in which it is looked up. -/
structure IsName (name : String) : Prop where
  ne_empty : name ≠ ""
  ne_stay : name ≠ "."
  ne_up : name ≠ ".."
  le : name.utf8ByteSize ≤ nameLimit

instance (name : String) : Decidable (IsName name) :=
  decidable_of_iff (name ≠ "" ∧ name ≠ "." ∧ name ≠ ".." ∧ name.utf8ByteSize ≤ nameLimit)
    ⟨fun ⟨h, h', h'', hle⟩ => ⟨h, h', h'', hle⟩, fun ⟨h, h', h'', hle⟩ => ⟨h, h', h'', hle⟩⟩

theorem walk_cons_of_isName {name : String} (hname : IsName name) (names : List String)
    (hplace : s.lookup place = some .directory) :
    s.walk place (name :: names) = s.walk (place ++ [name]) names := by
  have hstay : ¬ (name = "" || name = ".") = true := by simp [hname.ne_empty, hname.ne_stay]
  rw [walk, hplace]
  simp only [if_neg hstay, if_neg hname.ne_up, if_neg (Nat.not_lt.mpr hname.le)]

/-- Plain names lead to the place that they spell, along directories. -/
theorem walk_eq_ok_iff {names : List String} (hnames : ∀ name ∈ names, IsName name)
    (habove : s.DirectoriesAbove place) :
    s.walk place names = .ok target ↔
      target = place ++ names ∧ s.DirectoriesAbove (place ++ names) := by
  induction names generalizing place with
  | nil => simp [walk, habove, eq_comm]
  | cons name names ih =>
      have hname := hnames name List.mem_cons_self
      have hbelow (hplace : s.lookup place = some .directory) :
          s.DirectoriesAbove (place ++ [name]) := directoriesAbove_concat.mpr ⟨habove, hplace⟩
      have hrest := fun hplace =>
        ih (fun n hn => hnames n (List.mem_cons_of_mem name hn)) (hbelow hplace)
      rw [List.append_cons]
      constructor
      · intro h
        have hplace := lookup_of_walk_cons h
        rw [walk_cons_of_isName hname names hplace] at h
        exact (hrest hplace).mp h
      · intro h
        have hplace := (directoriesAbove_concat.mp
          (h.2.shorten (List.prefix_append (place ++ [name]) names))).2
        rw [walk_cons_of_isName hname names hplace]
        exact (hrest hplace).mpr h

theorem namesOf_empty : namesOf "" = [""] := rfl

/-- A path of plain names leads to the place of its names, along directories. -/
theorem locate_eq_ok_iff (hnames : ∀ name ∈ namesOf path, IsName name) :
    s.locate path = .ok place ↔
      place = namesOf path ∧ s.DirectoriesAbove (namesOf path) := by
  have hpath : path ≠ "" := by
    rintro rfl
    exact (hnames "" (by rw [namesOf_empty]; exact List.mem_cons_self)).ne_empty rfl
  rw [locate, if_neg hpath, walk_eq_ok_iff hnames s.directoriesAbove_nil, List.nil_append]

/-- Plain names have no empty name among them, so the cut of their path is behind one of them. -/
theorem splitLast_of_isName (hnames : ∀ name ∈ namesOf path, IsName name) :
    ((splitLast path).1 = "" ∧ namesOf path = [(splitLast path).2]) ∨
      ((splitLast path).1 ≠ "" ∧
        namesOf path = namesOf (splitLast path).1 ++ [(splitLast path).2]) := by
  have hcut := isCut_splitLast path
  generalize (splitLast path).1 = directory at hcut ⊢
  generalize (splitLast path).2 = name at hcut ⊢
  cases hcut with
  | single hsingle => exact .inl ⟨rfl, hsingle⟩
  | below k hdirectory hbelow =>
      cases k with
      | zero => exact .inr ⟨hdirectory, by simpa using hbelow⟩
      | succ k => exact absurd rfl (hnames "" (by simp [hbelow])).ne_empty
  | root k hdirectory habove hroot => exact absurd rfl (hnames "" (by simp [hroot])).ne_empty

theorem splitName_of_isName (hnames : ∀ name ∈ namesOf path, IsName name) :
    splitName path = splitLast path ∧ IsName (splitLast path).2 := by
  have hname : IsName (splitLast path).2 := by
    obtain ⟨-, hcut⟩ | ⟨-, hcut⟩ := splitLast_of_isName hnames <;>
      exact hnames _ (by rw [hcut]; simp)
  rw [splitName]
  exact ⟨if_neg hname.ne_empty, hname⟩

/-! ### Making directories -/

/-- Whether a tree comes from another one by making the directories on a way that are missing. -/
structure MakesWay (s t : Tree) (way : List String) : Prop where
  above : t.DirectoriesAbove way
  directory : t.lookup way = some .directory
  others : ∀ place, ¬ place <+: way → t.lookup place = s.lookup place

/-- Whether no file stands on a way. -/
def IsFree (s : Tree) (way : List String) : Prop :=
  ∀ above, above <+: way → ∀ content, s.lookup above ≠ some (.file content)

theorem makeDirectory_eq (husable : isUnusable path = false) (hlocate : s.locate path = .ok place) :
    s.makeDirectory path =
      if (s.lookup place).isSome then .error (.trouble .exists path)
      else .ok (s.put place .directory) := by
  rw [makeDirectory, husable, hlocate]
  rfl

/-- A directory below directories is made unless a file is there. -/
theorem ensureDirectory_eq_ok (husable : isUnusable path = false)
    (hlocate : s.locate path = .ok place) (hfree : s.IsFree place) :
    ∃ t, s.ensureDirectory path = (t, .ok ()) ∧ s.MakesWay t place := by
  have habove := directoriesAbove_of_locate hlocate
  rw [ensureDirectory, makeDirectory_eq husable hlocate]
  cases hentry : s.lookup place with
  | none =>
      have hne : s.lookup place ≠ some .directory := by simp [hentry]
      have hplace := ne_nil_of_lookup_ne hne
      refine ⟨_, rfl, habove.of_keepsDirectories (keepsDirectories_put hne _), ?_, ?_⟩
      · rw [lookup_put s hplace, if_pos rfl]
      · intro q hq
        rw [lookup_put s hplace, if_neg]
        rintro rfl
        exact hq (List.prefix_refl q)
  | some e =>
      cases e with
      | file content => exact absurd hentry (hfree place (List.prefix_refl place) content)
      | directory =>
          have hdirectory : s.isDirectory path = true := by
            rw [isDirectory, hlocate]
            exact decide_eq_true hentry
          exact ⟨s, by simp [hdirectory], habove, hentry, fun _ _ => rfl⟩

theorem MakesWay.lookup {way above : List String} (h : s.MakesWay t way) (ha : above <+: way) :
    t.lookup above = some .directory := by
  by_cases heq : above = way
  · rw [heq, h.directory]
  · exact h.above above ha heq

theorem MakesWay.concat {way : List String} {name : String} (h : s.MakesWay t way)
    (h' : t.MakesWay u (way ++ [name])) : s.MakesWay u (way ++ [name]) := by
  refine ⟨h'.above, h'.directory, fun place hplace => ?_⟩
  rw [h'.others place hplace]
  exact h.others place fun hway => hplace (hway.trans (List.prefix_append way _))

theorem IsFree.shorten {way above : List String} (h : s.IsFree way) (ha : above <+: way) :
    s.IsFree above :=
  fun place hplace => h place (hplace.trans ha)

/-- Making the way to a place puts no file at the place. -/
theorem IsFree.of_makesWay {way : List String} {name : String} (h : s.IsFree (way ++ [name]))
    (hway : s.MakesWay t way) : t.IsFree (way ++ [name]) := by
  intro place hplace content
  by_cases habove : place <+: way
  · rw [hway.lookup habove]
    nofun
  · rw [hway.others place habove]
    exact h place hplace content

theorem lookup_of_pathExists (h : s.pathExists path = true)
    (hnames : ∀ name ∈ namesOf path, IsName name) (hfree : s.IsFree (namesOf path)) :
    s.DirectoriesAbove (namesOf path) ∧ s.lookup (namesOf path) = some .directory := by
  rw [pathExists] at h
  cases hlocate : s.locate path with
  | error e => simp [hlocate] at h
  | ok place =>
      obtain ⟨rfl, habove⟩ := (locate_eq_ok_iff hnames).mp hlocate
      obtain ⟨e, hentry⟩ := Option.isSome_iff_exists.mp (by simpa [hlocate] using h)
      cases e with
      | file content => exact absurd hentry (hfree _ (List.prefix_refl _) content)
      | directory => exact ⟨habove, hentry⟩

theorem ensureDirectory_of_isName (husable : isUnusable path = false)
    (hnames : ∀ name ∈ namesOf path, IsName name) (habove : s.DirectoriesAbove (namesOf path))
    (hfree : s.IsFree (namesOf path)) :
    ∃ t, s.ensureDirectory path = (t, .ok ()) ∧ s.MakesWay t (namesOf path) :=
  ensureDirectory_eq_ok husable ((locate_eq_ok_iff hnames).mpr ⟨rfl, habove⟩) hfree

/-- A directory of plain names is made, with those above it, unless a file is in the way. -/
theorem ensureDirectories_eq_ok {fuel : Nat} (husable : isUnusable path = false)
    (hnames : ∀ name ∈ namesOf path, IsName name) (hfuel : (namesOf path).length ≤ fuel + 1)
    (hfree : s.IsFree (namesOf path)) :
    ∃ t, s.ensureDirectories fuel path = (t, .ok ()) ∧ s.MakesWay t (namesOf path) := by
  induction fuel generalizing path with
  | zero =>
      obtain ⟨-, hsingle⟩ | ⟨-, hbelow⟩ := splitLast_of_isName hnames
      · have habove : s.DirectoriesAbove (namesOf path) := hsingle ▸ s.directoriesAbove_singleton _
        exact ensureDirectory_of_isName husable hnames habove hfree
      · have hne := List.length_pos_iff.mpr (namesOf_ne_nil (splitLast path).1)
        rw [hbelow, List.length_append, List.length_singleton] at hfuel
        omega
  | succ fuel ih =>
      obtain ⟨hsplit, hname⟩ := splitName_of_isName hnames
      have hcut := splitLast_of_isName hnames
      have hhead := isUnusable_splitLast husable
      rw [ensureDirectories, hsplit]
      generalize splitLast path = cut at hcut hname hhead ⊢
      obtain ⟨directory, name⟩ := cut
      dsimp only at hcut hname hhead ⊢
      obtain ⟨rfl, hsingle⟩ | ⟨hdirectory, hbelow⟩ := hcut
      · have habove : s.DirectoriesAbove (namesOf path) := hsingle ▸ s.directoriesAbove_singleton _
        rw [if_pos (by simp)]
        exact ensureDirectory_of_isName husable hnames habove hfree
      · have hnames' : ∀ n ∈ namesOf directory, IsName n := fun n hn =>
          hnames n (by rw [hbelow]; exact List.mem_append_left _ hn)
        have hfree' : s.IsFree (namesOf directory) :=
          hfree.shorten (by rw [hbelow]; exact List.prefix_append _ _)
        have habove {t : Tree} (h : t.DirectoriesAbove (namesOf directory))
            (h' : t.lookup (namesOf directory) = some .directory) :
            t.DirectoriesAbove (namesOf path) :=
          hbelow ▸ directoriesAbove_concat.mpr ⟨h, h'⟩
        split
        · next hexists =>
          have hexists : s.pathExists directory = true := by
            simpa [hdirectory, hname.ne_empty] using hexists
          obtain ⟨h, h'⟩ := lookup_of_pathExists hexists hnames' hfree'
          exact ensureDirectory_of_isName husable hnames (habove h h') hfree
        · rw [hbelow] at hfuel
          obtain ⟨t, hmade, hway⟩ := ih hhead hnames' (by simpa using hfuel) hfree'
          have hfree'' : t.IsFree (namesOf path) := hbelow ▸ (hbelow ▸ hfree).of_makesWay hway
          obtain ⟨u, hmade', hway'⟩ :=
            ensureDirectory_of_isName husable hnames (habove hway.above hway.directory) hfree''
          refine ⟨u, ?_, hbelow ▸ hway.concat (hbelow ▸ hway')⟩
          rw [hmade]
          exact (if_neg hname.ne_stay).trans hmade'

end Tree

end MarkdownAdf.Files
