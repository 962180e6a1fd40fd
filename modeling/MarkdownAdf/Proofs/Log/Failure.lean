import MarkdownAdf.Proofs.Log.Delivery

/-!
# Configuring that fails

The console is set up before the log file. So a configuring that cannot make the log directory or
open the log file ends with an error, but it has replaced the handlers and set the level as one
without a directory does.
-/

namespace MarkdownAdf.Logging

variable {s : Logging} {level : LogLevel} {verbosity : Int} {directory : Option String}
  {stamp : String} {refusals : Files.Refusals} {e : Files.AccessError}

/-- Installing the console changes nothing where it was the last handler added, at the same level
and with no file handler beside it. -/
theorem installConsole_keeps_iff (s : Logging) (level : LogLevel) :
    (s.installConsole level).level = s.level ∧ (s.installConsole level).handlers = s.handlers ↔
      s.level = some level ∧ ∃ others : List Handler,
        (∀ h ∈ others, h.isOwned = false) ∧ s.handlers = others ++ [.console level] := by
  constructor
  · rintro ⟨hlevel, hhandlers⟩
    refine ⟨hlevel.symm, s.handlers.filter (fun h => !h.isOwned), ?_, hhandlers.symm⟩
    intro h hh
    simpa using (List.mem_filter.mp hh).2
  · rintro ⟨hlevel, others, hothers, hhandlers⟩
    have hkept : others.filter (fun h => !h.isOwned) = others := by
      apply List.filter_eq_self.mpr
      intro h hh
      simp [hothers h hh]
    refine ⟨hlevel.symm, ?_⟩
    simp [installConsole, hhandlers, hkept, isOwned_console]

/-- What a configuring that fails has done: the console is installed, and directories may have been
made. -/
theorem configure_of_error (h : (s.configure verbosity directory stamp refusals).2 = .error e) :
    ∃ files, s.files.KeepsFiles files ∧ (s.configure verbosity directory stamp refusals).1 =
      { s.installConsole (levelOf verbosity) with files } := by
  obtain ⟨files, hkeeps, ⟨hresult, -⟩ | ⟨d, opened, place, -, -, hresult⟩⟩ :=
    configure_cases s verbosity directory stamp refusals
  · exact ⟨files, hkeeps, hresult⟩
  · rw [hresult] at h
    cases h

/-- A configuring that fails leaves the handlers of others, what stands on the console and every
file as they are. The level and the handlers are those that configuring without a directory leaves,
so the earlier console and file handlers are gone. They are what they were before exactly if the
level was the same and the console handler the last one added, with no file handler. -/
theorem configure_failure (s : Logging) (verbosity : Int) (directory : Option String)
    (stamp : String) (refusals : Files.Refusals) (e : Files.AccessError)
    (h : (s.configure verbosity directory stamp refusals).2 = .error e) :
    let level := levelOf verbosity
    let t := (s.configure verbosity directory stamp refusals).1
    t.handlers.filter (fun h => !h.isOwned) = s.handlers.filter (fun h => !h.isOwned) ∧
    t.consoleText = s.consoleText ∧ s.files.KeepsFiles t.files ∧
    { t with files := s.files } = (s.configure verbosity none stamp refusals).1 ∧
    t.level = some level ∧ t.handlers.filter Handler.isOwned = [.console level] ∧
    (t.level = s.level ∧ t.handlers = s.handlers ↔
      s.level = some level ∧ ∃ others : List Handler,
        (∀ h ∈ others, h.isOwned = false) ∧ s.handlers = others ++ [.console level]) := by
  intro level t
  obtain ⟨files, hkeeps, hresult⟩ := configure_of_error h
  have ht : t = { s.installConsole level with files } := hresult
  have hbase := isConfigured_installConsole s level
  rw [ht]
  refine ⟨filter_foreign_installConsole s level, rfl, hkeeps, rfl, hbase.atLevel, hbase.own, ?_⟩
  exact installConsole_keeps_iff s level

/-- A directory below a file cannot be made; the handlers of others are still there. -/
theorem configure_failure_belowFile :
    let fresh : Logging := { files := ⟨[(["taken"], .file [])]⟩ }
    let s := fresh.run [.configure 2 (some "logs") "20240102_030405" {}, .addForeign (some "app")]
    let failed := s.configure 2 (some "taken/logs") "20240102_030406"
    (∃ e, failed.2 = .error e) ∧
    failed.1.handlers.filter (fun h => !h.isOwned) = [.foreign none, .foreign (some "app")] ∧
    failed.1.handlers.filter Handler.isOwned = [.console .debug] := by
  intro fresh s failed
  have hfailed : failed.2.isOk = false := by decide +kernel
  have hothers : s.handlers.filter (fun h => !h.isOwned) =
      [.foreign none, .foreign (some "app")] := by decide +kernel
  cases hresult : failed.2 with
  | ok _ =>
      rw [hresult] at hfailed
      cases hfailed
  | error e =>
      obtain ⟨hkept, -, -, -, -, hown, -⟩ :=
        configure_failure s 2 (some "taken/logs") "20240102_030406" {} e hresult
      exact ⟨⟨e, rfl⟩, hkept.trans hothers, hown⟩

/-- With a file in the place of the log directory, configuring fails behind the change of the level
and the loss of both earlier handlers. -/
theorem configure_failure_changes :
    let fresh : Logging := { files := ⟨[(["blocked"], .file "x".toUTF8.toList)]⟩ }
    let s := fresh.run [.configure 1 (some "logs") "20240102_030405" {}]
    let failed := s.configure 0 (some "blocked") "20240102_030405"
    failed.2.isOk = false ∧ s.level = some .info ∧ failed.1.level = some .warning ∧
    s.handlers = [.foreign none, .console .info,
      .file .info "logs/md2adf_20240102_030405.log"] ∧
    failed.1.handlers = [.foreign none, .console .warning] := by
  decide +kernel

end MarkdownAdf.Logging
