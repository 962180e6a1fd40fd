import MarkdownAdf.Proofs.Log.Run

/-!
# What reaches the console and the log file

A logger that was configured has one console handler and, if a log file was opened, one file
handler, both at its own level. So a record that the level lets through comes to one line on the
console and one line in the file, however often the logger was configured before. The lines show the
record.
-/

namespace MarkdownAdf.Logging

variable {s t u : Logging} {level : LogLevel} {target : Option (String × List String)}
  {place? : Option (List String)} {rs rs' : List LogRecord}

/-! ### Written lines -/

/-- Whether a line is made of parts in their order, with gaps in front of them that hold no line
end, and ends behind the last of them. -/
def Shows : List String → String → Prop
  | [], line => line = "\n"
  | part :: parts, line =>
    ∃ gap rest, line = gap ++ part ++ rest ∧ '\n' ∉ gap.toList ∧ Shows parts rest

theorem shows_consoleLine (r : LogRecord) :
    Shows [r.level.name, r.message] (consoleLine r) := by
  refine ⟨timeMark ++ " [" ++ String.ofList (List.replicate (levelWidth - r.level.name.length) ' '),
    "] " ++ r.message ++ "\n", ?_, ?_, "] ", "\n", rfl, by decide, rfl⟩
  · simp only [consoleLine, String.append_assoc]
  · simp [timeMark, List.mem_replicate]

theorem shows_fileLine (r : LogRecord) :
    Shows [r.logger, r.level.name, r.message] (fileLine r) := by
  refine ⟨timeMark ++ " - ", " - " ++ r.level.name ++ " - " ++ r.message ++ "\n", ?_, by decide,
    " - ", " - " ++ r.message ++ "\n", ?_, by decide, " - ", "\n", rfl, by decide, rfl⟩
  · simp only [fileLine, String.append_assoc]
  · simp only [String.append_assoc]

/-- What records come to on the console. -/
def consoleOutput (rs : List LogRecord) : String := String.join (rs.map consoleLine)

/-- What records come to in a file. -/
def fileOutput (rs : List LogRecord) : Bytes := rs.flatMap fun r => (fileLine r).toUTF8.toList

/-- Whether a state comes from another one by writing records to the console and to the file at a
place, if there is one, while all other files stay. -/
structure Writes (s t : Logging) (place? : Option (List String)) (rs : List LogRecord) :
    Prop where
  console : t.consoleText = s.consoleText ++ consoleOutput rs
  held : ∀ q, t.files.heldAt q =
    s.files.heldAt q ++ if place? = some q then fileOutput rs else []

theorem writes_nil (hconsole : t.consoleText = s.consoleText)
    (hheld : ∀ q, t.files.heldAt q = s.files.heldAt q) : s.Writes t place? [] :=
  ⟨hconsole.trans String.append_empty.symm, fun q => by
    rw [hheld q, fileOutput, List.flatMap_nil, ite_self, List.append_nil]⟩

theorem Writes.trans (h : s.Writes t place? rs) (h' : t.Writes u place? rs') :
    s.Writes u place? (rs ++ rs') := by
  refine ⟨?_, fun q => ?_⟩
  · rw [h'.console, h.console, String.append_assoc, consoleOutput, consoleOutput, consoleOutput,
      List.map_append, String.join_append]
  · rw [h'.held q, h.held q, List.append_assoc]
    split
    · rw [fileOutput, fileOutput, fileOutput, List.flatMap_append]
    · rw [List.append_nil]

/-! ### The installed handlers -/

/-- Whether the installed handlers are a console handler and a handler for a file, if there is one,
all at the level of the logger. The file is there, at a known place. -/
structure IsConfigured (s : Logging) (level : LogLevel) (target : Option (String × List String)) :
    Prop where
  atLevel : s.level = some level
  own : s.handlers.filter Handler.isOwned =
    .console level :: (target.map fun f => Handler.file level f.1).toList
  held : ∀ f ∈ target, ∃ content, s.files.HoldsFile f.1 f.2 content

theorem isConfigured_installConsole (s : Logging) (level : LogLevel) :
    (s.installConsole level).IsConfigured level none := by
  refine ⟨rfl, ?_, nofun⟩
  show (s.handlers.filter _ ++ [Handler.console level]).filter _ = _
  rw [List.filter_append, List.filter_filter]
  simp [isOwned_console]

theorem IsConfigured.installFile (h : s.IsConfigured level none) {path : String}
    {place : List String} {opened : Files.Tree} {content : Bytes}
    (hfile : opened.HoldsFile path place content) :
    (s.installFile level path opened).IsConfigured level (some (path, place)) := by
  refine ⟨h.atLevel, ?_, fun f hf => Option.some.inj hf ▸ ⟨content, hfile⟩⟩
  rw [Logging.installFile, List.filter_append, h.own]
  simp [isOwned_file]

theorem IsConfigured.addForeign (h : s.IsConfigured level target) {name : Option String}
    (hname : (Handler.foreign name).isOwned = false) :
    (s.addForeign name).IsConfigured level target := by
  refine ⟨h.atLevel, ?_, h.held⟩
  rw [Logging.addForeign, List.filter_append, h.own]
  simp [hname]

/-- Whether a logger at a level shows a record. -/
def isShown (level : LogLevel) (r : LogRecord) : Bool :=
  LogSource.covers r.logger && passes (some level) r

theorem handle_console (s : Logging) {r : LogRecord} (hpass : passes (some level) r = true) :
    s.handle r (.console level) = { s with consoleText := s.consoleText ++ consoleLine r } :=
  if_pos hpass

theorem handle_file {r : LogRecord} {path : String} {place : List String} {content : Bytes}
    (hpass : passes (some level) r = true) (hfile : s.files.HoldsFile path place content) :
    ∃ files, s.files.Extends files path place (fileLine r).toUTF8.toList ∧
      s.handle r (.file level path) = { s with files } := by
  obtain ⟨files, hextend, hextends⟩ := hfile.exists_extends (fileLine r).toUTF8.toList
  refine ⟨files, hextends, (if_pos hpass).trans ?_⟩
  dsimp only
  rw [hextend]

/-- A record goes to the installed handlers if the level lets it through. -/
theorem IsConfigured.log_eq (h : s.IsConfigured level target) (r : LogRecord) :
    s.log r = if isShown level r then
      (target.map fun f => Handler.file level f.1).toList.foldl (handle · r ·)
        (s.handle r (.console level))
      else s := by
  rw [Logging.log, ← foldl_handle_filter, h.own, h.atLevel]
  rfl

/-- A record that is shown comes to one line on the console and one in the log file. -/
theorem IsConfigured.writes_of_shown (h : s.IsConfigured level target) {r : LogRecord}
    (hshown : isShown level r = true) :
    s.Writes (s.log r) (target.map (·.2)) [r] ∧
      ∀ f ∈ target, ∃ content, (s.log r).files.HoldsFile f.1 f.2 content := by
  have hpass : passes (some level) r = true := (Bool.and_eq_true_iff.mp hshown).2
  rw [h.log_eq, if_pos hshown, handle_console s hpass]
  cases target with
  | none => exact ⟨⟨by simp [consoleOutput], fun q => by simp⟩, nofun⟩
  | some f =>
      obtain ⟨content, hfile⟩ := h.held f rfl
      obtain ⟨files, hextends, hhandle⟩ := handle_file
        (s := { s with consoleText := s.consoleText ++ consoleLine r }) hpass hfile
      simp only [Option.map_some, Option.toList_some, List.foldl_cons, List.foldl_nil, hhandle]
      refine ⟨⟨by simp [consoleOutput], fun q => ?_⟩, fun g hg => ?_⟩
      · simp [hextends.heldAt q, fileOutput, eq_comm]
      · obtain rfl := Option.some.inj hg
        exact ⟨_, hextends.holdsFile⟩

/-- Logging a record writes it once to the console and once to the log file if the level lets it
through, and nothing else. -/
theorem IsConfigured.log (h : s.IsConfigured level target) (r : LogRecord) :
    (s.log r).IsConfigured level target ∧
      s.Writes (s.log r) (target.map (·.2)) ([r].filter (isShown level)) := by
  cases hshown : isShown level r with
  | false =>
      have hlog : s.log r = s := (h.log_eq r).trans (if_neg (Bool.eq_false_iff.mp hshown))
      rw [hlog, List.filter_cons_of_neg (Bool.eq_false_iff.mp hshown), List.filter_nil]
      exact ⟨h, writes_nil rfl fun _ => rfl⟩
  | true =>
      obtain ⟨hwrites, hheld⟩ := h.writes_of_shown hshown
      have hkeeps := handlers_log s r
      rw [List.filter_cons_of_pos hshown, List.filter_nil]
      exact ⟨⟨hkeeps.2.trans h.atLevel, hkeeps.1 ▸ h.own, hheld⟩, hwrites⟩

/-! ### Runs -/

/-- Configuring installs its handlers in place of the earlier ones. It writes nothing but the record
that tells the log file. -/
theorem isConfigured_configure (s : Logging) (verbosity : Int) (directory : Option String)
    (stamp : String) (refusals : Files.Refusals) :
    let result := s.configure verbosity directory stamp refusals
    ∃ target : Option (String × List String),
      target.map (·.1) = (if result.2.isOk then
        (directory.filter (· ≠ "")).map (logPath · stamp) else none) ∧
      result.1.IsConfigured (levelOf verbosity) target ∧
      s.Writes result.1 (target.map (·.2))
        ((target.map fun f => openingRecord f.1).toList.filter (isShown (levelOf verbosity))) := by
  have hbase := isConfigured_installConsole s (levelOf verbosity)
  have hcases := configure_cases s verbosity directory stamp refusals
  dsimp only at hcases ⊢
  generalize s.configure verbosity directory stamp refusals = result at hcases ⊢
  obtain ⟨files, hkeeps, ⟨hresult, hnone⟩ | ⟨d, opened, place, hd, hextends, rfl⟩⟩ := hcases
  · refine ⟨none, ?_, hresult ▸ ⟨hbase.atLevel, hbase.own, nofun⟩,
      hresult ▸ writes_nil rfl hkeeps.heldAt⟩
    split
    · next hok => rw [hnone hok]; rfl
    · rfl
  · have hopened : s.Writes
        ((s.installConsole (levelOf verbosity)).installFile (levelOf verbosity) (logPath d stamp)
          opened) (some place) [] := by
      refine writes_nil rfl fun q => ?_
      rw [installFile, hextends.heldAt, ite_self, List.append_nil, hkeeps.heldAt]
    have hlog := (hbase.installFile hextends.holdsFile).log (openingRecord (logPath d stamp))
    have hwrites := hopened.trans hlog.2
    refine ⟨some (logPath d stamp, place), ?_, hlog.1, hwrites⟩
    rw [hd]
    rfl

/-- The records that steps log. -/
def recordsOf (xs : List Step) : List LogRecord := xs.filterMap Step.record?

/-- Until the next configuring every record that is shown comes to one line on the console and one
in the log file, in the order in which the records were logged. -/
theorem IsConfigured.run (h : s.IsConfigured level target) (xs : List Step)
    (hxs : ∀ x ∈ xs, x.isConfigure = false)
    (hforeign : ∀ x ∈ xs, ∀ h ∈ x.foreign?, h.isOwned = false) :
    (s.run xs).IsConfigured level target ∧
      s.Writes (s.run xs) (target.map (·.2)) ((recordsOf xs).filter (isShown level)) := by
  induction xs generalizing s with
  | nil => exact ⟨h, writes_nil rfl fun _ => rfl⟩
  | cons x xs ih =>
      have hstep : (s.step x).IsConfigured level target ∧ s.Writes (s.step x) (target.map (·.2))
          ((recordsOf [x]).filter (isShown level)) := by
        cases x with
        | configure => cases hxs _ List.mem_cons_self
        | addForeign name =>
            exact ⟨h.addForeign (hforeign _ List.mem_cons_self _ rfl),
              writes_nil rfl fun _ => rfl⟩
        | log r => exact h.log r
      have hrest := ih hstep.1 (fun y hy => hxs y (List.mem_cons_of_mem x hy))
        fun y hy => hforeign y (List.mem_cons_of_mem x hy)
      have hrecords : recordsOf (x :: xs) = recordsOf [x] ++ recordsOf xs :=
        List.filterMap_append (l := [x])
      rw [hrecords, List.filter_append]
      exact ⟨hrest.1, hstep.2.trans hrest.2⟩

/-- The installed handlers are the only ones with a name that configuring takes for itself. -/
theorem IsConfigured.filter_name (h : s.IsConfigured level target) {name : String}
    (hname : name = Handler.consoleName ∨ name = Handler.fileName) :
    s.handlers.filter (fun h => h.name = some name) =
      (Handler.console level :: (target.map fun f => Handler.file level f.1).toList).filter
        fun h => h.name = some name := by
  rw [← h.own, List.filter_filter]
  refine congrArg (fun p => s.handlers.filter p) (funext fun x => ?_)
  by_cases hx : x.name = some name
  · rcases hname with rfl | rfl <;> simp [Handler.isOwned, hx]
  · simp [hx]

theorem IsConfigured.filter_consoleName (h : s.IsConfigured level target) :
    s.handlers.filter (fun h => h.name = some Handler.consoleName) = [.console level] := by
  rw [h.filter_name (.inl rfl)]
  cases target <;> simp [Handler.name, Handler.consoleName, Handler.fileName]

theorem IsConfigured.filter_fileName (h : s.IsConfigured level target) :
    s.handlers.filter (fun h => h.name = some Handler.fileName) =
      ((target.map (·.1)).map fun path => Handler.file level path).toList := by
  rw [h.filter_name (.inr rfl)]
  cases target <;> simp [Handler.name, Handler.consoleName, Handler.fileName]

/-- Behind any run, what counts is the last configuring. There is one console handler, there is a
file handler exactly if a log file was asked for and opened, and both have the level of the logger,
which is that of the last configuring; handlers of others stay in their order. Every record that the
level lets through comes to one line on the console and, with a file handler, to one line in the
log file. A line shows the level and the message of its record, in the file also its logger, and
ends there. No step takes text from a file. -/
theorem run_delivers (consoleText : String) (files : Files.Tree) (before after : List Step)
    (verbosity : Int) (directory : Option String) (stamp : String) (refusals : Files.Refusals)
    (hafter : ∀ x ∈ after, x.isConfigure = false)
    (hforeign : ∀ x ∈ before ++ after, ∀ h ∈ x.foreign?, h.isOwned = false) :
    let fresh : Logging := { consoleText, files }
    let level := levelOf verbosity
    let s := fresh.run before
    let t := fresh.run (before ++ .configure verbosity directory stamp refusals :: after)
    let path? : Option String :=
      if (s.configure verbosity directory stamp refusals).2.isOk then
        (directory.filter (· ≠ "")).map (logPath · stamp)
      else none
    t.level = some level ∧
    t.handlers.filter (fun h => h.name = some Handler.consoleName) = [.console level] ∧
    t.handlers.filter (fun h => h.name = some Handler.fileName) =
      (path?.map fun path => Handler.file level path).toList ∧
    t.handlers.filter (fun h => !h.isOwned) =
      .foreign none :: (before ++ after).filterMap Step.foreign? ∧
    (∃ target : Option (String × List String), target.map (·.1) = path? ∧
      (∀ f ∈ target, ∃ content, t.files.HoldsFile f.1 f.2 content) ∧
      s.Writes t (target.map (·.2))
        (((path?.map openingRecord).toList ++ recordsOf after).filter (isShown level))) ∧
    (∀ r : LogRecord, Shows [r.level.name, r.message] (consoleLine r) ∧
      Shows [r.logger, r.level.name, r.message] (fileLine r)) ∧
    ∀ (u : Logging) (x : Step), u.files.Grows (u.step x).files := by
  intro fresh level s t path?
  obtain ⟨target, hpath, hconfigured, hopening⟩ :=
    isConfigured_configure s verbosity directory stamp refusals
  have htarget : target.map (·.1) = path? := hpath
  have ht : t = (s.configure verbosity directory stamp refusals).1.run after :=
    run_append fresh before _
  obtain ⟨hrun, hwrites⟩ := hconfigured.run after hafter
    fun x hx => hforeign x (List.mem_append_right before hx)
  rw [← ht] at hrun hwrites
  have hothers : t.handlers.filter (fun h => !h.isOwned) =
      .foreign none :: (before ++ after).filterMap Step.foreign? := by
    rw [foreign_run fresh, List.filterMap_append, List.filterMap_cons_none rfl,
      List.filterMap_append]
    · rfl
    · intro x hx
      rcases List.mem_append.mp hx with hx | hx
      · exact hforeign x (List.mem_append_left after hx)
      · rcases List.mem_cons.mp hx with rfl | hx
        · nofun
        · exact hforeign x (List.mem_append_right before hx)
  have hall := hopening.trans hwrites
  rw [← List.filter_append] at hall
  refine ⟨hrun.atLevel, hrun.filter_consoleName, ?_, hothers, ⟨target, htarget, hrun.held, ?_⟩,
    fun r => ⟨shows_consoleLine r, shows_fileLine r⟩, grows_step⟩
  · exact htarget ▸ hrun.filter_fileName
  · rw [← htarget, Option.map_map]
    exact hall

/-- A logger that is configured twice within a second goes on in the same log file. -/
theorem run_delivers_twice :
    let before : List Step := [.configure 0 (some "logs") "20240102_030405" {},
      .addForeign (some "app"), .log ⟨.debug, "md2adf", "first"⟩]
    let after : List Step := [.log ⟨.info, "md2adf.config", "second"⟩]
    let fresh : Logging := {}
    let path := "logs/md2adf_20240102_030405.log"
    let t := fresh.run (before ++ .configure 1 (some "logs/") "20240102_030405" {} :: after)
    (∀ x ∈ after, x.isConfigure = false) ∧
    (∀ x ∈ before ++ after, ∀ h ∈ x.foreign?, h.isOwned = false) ∧
    t.handlers.filter (fun h => !h.isOwned) = [.foreign none, .foreign (some "app")] ∧
    ∃ place content, t.files.HoldsFile path place content ∧
      (fresh.run before).Writes t (some place)
        [openingRecord path, ⟨.info, "md2adf.config", "second"⟩] := by
  intro before after fresh path t
  have hafter : ∀ x ∈ after, x.isConfigure = false := by simp [after, Step.isConfigure]
  have hforeign : ∀ x ∈ before ++ after, ∀ h ∈ x.foreign?, h.isOwned = false := by
    simp [before, after, Step.foreign?, Handler.isOwned, Handler.name, Handler.consoleName,
      Handler.fileName]
  obtain ⟨-, -, -, hothers, ⟨target, htarget, hheld, hwrites⟩, -⟩ :=
    run_delivers "" {} before after 1 (some "logs/") "20240102_030405" {} hafter hforeign
  have hok :
      ((fresh.run before).configure 1 (some "logs/") "20240102_030405" {}).2.isOk = true := by
    decide +kernel
  have hpath : ((some "logs/").filter (· ≠ "")).map (logPath · "20240102_030405") = some path := by
    decide +kernel
  have hshown : (((some path).map openingRecord).toList ++ recordsOf after).filter
      (isShown (levelOf 1)) = [openingRecord path, ⟨.info, "md2adf.config", "second"⟩] := by
    decide +kernel
  rw [if_pos hok, hpath] at htarget hwrites
  rw [hshown] at hwrites
  cases target with
  | none => cases htarget
  | some f =>
      obtain ⟨content, hfile⟩ := hheld f rfl
      have hname : f.1 = path := Option.some.inj htarget
      exact ⟨hafter, hforeign, hothers, f.2, content, hname ▸ hfile, hwrites⟩

end MarkdownAdf.Logging
