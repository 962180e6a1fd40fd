import MarkdownAdf.Log.Setup
import MarkdownAdf.Proofs.Files.Tree

/-!
# Runs of the logger

A run configures the logger, adds handlers of others and logs records, in any order. No step of it
takes text from a file. Logging leaves the handlers as they are and concerns only those that were
installed by configuring.
-/

namespace MarkdownAdf.Logging

variable {s t u : Logging}

/-- What can be done with the logger. -/
inductive Step where
  | configure (verbosity : Int) (directory : Option String) (stamp : String)
      (refusals : Files.Refusals)
  | addForeign (name : Option String)
  | log (r : LogRecord)

namespace Step

def isConfigure : Step → Bool
  | configure .. => true
  | _ => false

/-- The handler of someone else that a step adds. -/
def foreign? : Step → Option Handler
  | addForeign name => some (.foreign name)
  | _ => none

/-- The record that a step logs. -/
def record? : Step → Option LogRecord
  | log r => some r
  | _ => none

end Step

def step (s : Logging) : Step → Logging
  | .configure verbosity directory stamp refusals =>
    (s.configure verbosity directory stamp refusals).1
  | .addForeign name => s.addForeign name
  | .log r => s.log r

def run (s : Logging) (xs : List Step) : Logging := xs.foldl step s

theorem run_append (s : Logging) (xs ys : List Step) : s.run (xs ++ ys) = (s.run xs).run ys :=
  List.foldl_append

/-! ### Handling a record -/

theorem isOwned_console (level : LogLevel) : (Handler.console level).isOwned = true := by
  simp [Handler.isOwned, Handler.name]

theorem isOwned_file (level : LogLevel) (path : String) :
    (Handler.file level path).isOwned = true := by
  simp [Handler.isOwned, Handler.name]

/-- A handler of someone else writes nothing. -/
theorem handle_of_not_owned {h : Handler} (hown : h.isOwned = false) (r : LogRecord) :
    s.handle r h = s := by
  cases h with
  | foreign name => simp [handle]
  | console level => cases (isOwned_console level).symm.trans hown
  | file level path => cases (isOwned_file level path).symm.trans hown

/-- A record is written by the handlers that are installed by configuring. -/
theorem foldl_handle_filter (s : Logging) (r : LogRecord) (hs : List Handler) :
    (hs.filter Handler.isOwned).foldl (handle · r ·) s = hs.foldl (handle · r ·) s := by
  rw [List.foldl_filter]
  refine congrArg (fun f => hs.foldl f s) (funext fun s => funext fun h => ?_)
  cases hown : h.isOwned with
  | true => rfl
  | false => exact (handle_of_not_owned hown r).symm

/-- A handler changes what stands on the console, or adds to a file. -/
theorem handle_cases (s : Logging) (r : LogRecord) (h : Handler) :
    (∃ consoleText, s.handle r h = { s with consoleText }) ∨
      ∃ path files, s.files.extend path (fileLine r).toUTF8.toList = .ok files ∧
        s.handle r h = { s with files } := by
  rw [handle.eq_def]
  split
  · cases h with
    | foreign name => exact .inl ⟨s.consoleText, rfl⟩
    | console level => exact .inl ⟨_, rfl⟩
    | file level path =>
        dsimp only
        cases hextend : s.files.extend path (fileLine r).toUTF8.toList with
        | ok files => exact .inr ⟨path, files, hextend, rfl⟩
        | error e => exact .inl ⟨s.consoleText, rfl⟩
  · exact .inl ⟨s.consoleText, rfl⟩

theorem handlers_handle (s : Logging) (r : LogRecord) (h : Handler) :
    (s.handle r h).handlers = s.handlers ∧ (s.handle r h).level = s.level := by
  obtain ⟨_, hhandle⟩ | ⟨_, _, _, hhandle⟩ := handle_cases s r h
  · rw [hhandle]
    exact ⟨rfl, rfl⟩
  · rw [hhandle]
    exact ⟨rfl, rfl⟩

theorem grows_handle (s : Logging) (r : LogRecord) (h : Handler) :
    s.files.Grows (s.handle r h).files := by
  obtain ⟨_, hhandle⟩ | ⟨_, _, hextend, hhandle⟩ := handle_cases s r h
  · rw [hhandle]
    exact .refl s.files
  · rw [hhandle]
    obtain ⟨_, hextends⟩ := Files.Tree.exists_extends hextend
    exact hextends.grows

/-- What every handler keeps is kept by logging a record. -/
theorem log_keeps {P : Logging → Logging → Prop} (hrefl : ∀ s, P s s)
    (htrans : ∀ {s t u}, P s t → P t u → P s u) (s : Logging) (r : LogRecord)
    (hhandle : ∀ s h, P s (handle s r h)) : P s (s.log r) := by
  have hfold (hs : List Handler) (s : Logging) : P s (hs.foldl (handle · r ·) s) := by
    induction hs generalizing s with
    | nil => exact hrefl s
    | cons h hs ih => exact htrans (hhandle s h) (ih (s.handle r h))
  rw [log]
  split
  · exact hfold _ s
  · exact hrefl s

theorem handlers_log (s : Logging) (r : LogRecord) :
    (s.log r).handlers = s.handlers ∧ (s.log r).level = s.level :=
  log_keeps (P := fun s t => t.handlers = s.handlers ∧ t.level = s.level) (fun _ => ⟨rfl, rfl⟩)
    (fun h h' => ⟨h'.1.trans h.1, h'.2.trans h.2⟩) s r fun s h => handlers_handle s r h

theorem grows_log (s : Logging) (r : LogRecord) : s.files.Grows (s.log r).files :=
  log_keeps (P := fun s t => s.files.Grows t.files) (fun s => .refl s.files)
    Files.Tree.Grows.trans s r fun s h => grows_handle s r h

/-! ### Configuring -/

theorem keepsFiles_makeLogDirectory (s : Files.Tree) (refusals : Files.Refusals)
    (directory : String) : s.KeepsFiles (makeLogDirectory s refusals directory).1 := by
  rw [makeLogDirectory]
  split
  · exact .refl s
  · exact Files.Tree.keepsFiles_makeWithParents _ s directory

/-- Opening a log file makes directories; unless it fails, it then adds nothing to a file, which is
there from now on, and a handler for it. -/
theorem openLogFile_cases (s : Logging) (refusals : Files.Refusals) (directory stamp : String)
    (level : LogLevel) :
    ∃ files, s.files.KeepsFiles files ∧
      ((∃ e, s.openLogFile refusals directory stamp level = ({ s with files }, .error e)) ∨
        ∃ opened place, files.Extends opened (logPath directory stamp) place [] ∧
          s.openLogFile refusals directory stamp level =
            (s.installFile level (logPath directory stamp) opened,
              .ok (logPath directory stamp))) := by
  have hkeeps := keepsFiles_makeLogDirectory s.files refusals (Files.normalPath directory)
  rw [openLogFile]
  generalize makeLogDirectory s.files refusals (Files.normalPath directory) = made at hkeeps ⊢
  obtain ⟨files, made⟩ := made
  refine ⟨files, hkeeps, ?_⟩
  cases made with
  | error e => exact .inl ⟨e, rfl⟩
  | ok _ =>
      dsimp only
      cases hopen : Files.unlessRefused refusals.opening
          (files.extend (logPath directory stamp) []) with
      | error e => exact .inl ⟨e, rfl⟩
      | ok opened =>
          obtain ⟨place, hextends⟩ :=
            Files.Tree.exists_extends (Files.unlessRefused_eq_ok_iff.mp hopen).2
          exact .inr ⟨opened, place, hextends, rfl⟩

/-- Configuring ends with the console handler where no log file was asked for or opened; otherwise
it installs the handler of the file as well and logs a record. -/
theorem configure_cases (s : Logging) (verbosity : Int) (directory : Option String)
    (stamp : String) (refusals : Files.Refusals) :
    let base := s.installConsole (levelOf verbosity)
    let result := s.configure verbosity directory stamp refusals
    ∃ files, s.files.KeepsFiles files ∧
      ((result.1 = { base with files } ∧
          (result.2.isOk = true → directory.filter (· ≠ "") = none)) ∨
        ∃ d opened place, directory.filter (· ≠ "") = some d ∧
          files.Extends opened (logPath d stamp) place [] ∧
          result =
            ((base.installFile (levelOf verbosity) (logPath d stamp) opened).log
              (openingRecord (logPath d stamp)), .ok ())) := by
  intro base
  cases directory with
  | none => exact ⟨s.files, .refl _, .inl ⟨rfl, fun _ => rfl⟩⟩
  | some d =>
      rw [configure]
      dsimp only
      by_cases hd : d = ""
      · rw [if_pos hd, hd]
        exact ⟨s.files, .refl _, .inl ⟨rfl, fun _ => rfl⟩⟩
      · obtain ⟨files, hkeeps, ⟨e, hfail⟩ | ⟨opened, place, hextends, hopen⟩⟩ :=
          openLogFile_cases base refusals d stamp (levelOf verbosity)
        · rw [if_neg hd, hfail]
          exact ⟨files, hkeeps, .inl ⟨rfl, nofun⟩⟩
        · rw [if_neg hd, hopen]
          exact ⟨files, hkeeps, .inr ⟨d, opened, place, by simp [hd], hextends, rfl⟩⟩

/-! ### Steps -/

/-- No step takes a directory away or text from a file. -/
theorem grows_step (s : Logging) (x : Step) : s.files.Grows (s.step x).files := by
  cases x with
  | configure verbosity directory stamp refusals =>
      obtain ⟨files, hkeeps, ⟨hresult, -⟩ | ⟨d, opened, place, -, hextends, hresult⟩⟩ :=
        configure_cases s verbosity directory stamp refusals
      · rw [step, hresult]
        exact hkeeps.grows
      · rw [step, hresult]
        exact (hkeeps.grows.trans hextends.grows).trans
          (grows_log (installFile _ _ _ opened) _)
  | addForeign name => exact .refl _
  | log r => exact grows_log s r

theorem filter_foreign_installConsole (s : Logging) (level : LogLevel) :
    (s.installConsole level).handlers.filter (fun h => !h.isOwned) =
      s.handlers.filter (fun h => !h.isOwned) := by
  rw [installConsole, List.filter_append, List.filter_filter]
  simp [isOwned_console]

/-- The handlers of others stay in every step, behind each other as they were added. -/
theorem foreign_step (s : Logging) (x : Step) (hx : ∀ h ∈ x.foreign?, h.isOwned = false) :
    (s.step x).handlers.filter (fun h => !h.isOwned) =
      s.handlers.filter (fun h => !h.isOwned) ++ x.foreign?.toList := by
  cases x with
  | configure verbosity directory stamp refusals =>
      refine Eq.trans ?_ (List.append_nil _).symm
      rw [← filter_foreign_installConsole s (levelOf verbosity)]
      obtain ⟨files, -, ⟨hresult, -⟩ | ⟨d, opened, place, -, -, hresult⟩⟩ :=
        configure_cases s verbosity directory stamp refusals
      · rw [step, hresult]
      · rw [step, hresult]
        dsimp only
        rw [(handlers_log _ _).1, installFile, List.filter_append]
        simp [isOwned_file]
  | addForeign name =>
      have hname : (Handler.foreign name).isOwned = false := hx _ rfl
      show (s.handlers ++ [Handler.foreign name]).filter _ = _
      rw [List.filter_append]
      simp [hname, Step.foreign?]
  | log r =>
      show (s.log r).handlers.filter _ = _
      rw [(handlers_log s r).1]
      exact (List.append_nil _).symm

theorem foreign_run (s : Logging) (xs : List Step)
    (hxs : ∀ x ∈ xs, ∀ h ∈ x.foreign?, h.isOwned = false) :
    (s.run xs).handlers.filter (fun h => !h.isOwned) =
      s.handlers.filter (fun h => !h.isOwned) ++ xs.filterMap Step.foreign? := by
  induction xs generalizing s with
  | nil => exact (List.append_nil _).symm
  | cons x xs ih =>
      rw [run, List.foldl_cons, ← run, ih _ fun y hy => hxs y (List.mem_cons_of_mem x hy),
        foreign_step s x (hxs x List.mem_cons_self), List.append_assoc]
      cases hx : x.foreign? <;> simp [hx]

end MarkdownAdf.Logging
