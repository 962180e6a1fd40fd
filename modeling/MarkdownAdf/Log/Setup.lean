import MarkdownAdf.Files.Tree
import MarkdownAdf.Log.Record

/-!
# Setting up the log

The library's logger starts with a handler that writes nothing. Configuring it sets its level and
installs a console handler and, on request, a file handler in place of those that it installed
before; handlers that others have added stay.
-/

namespace MarkdownAdf

namespace LogSource

/-- Whether a logger is the library's own or one below it. -/
def covers (logger : String) : Bool :=
  logger == rootName || (rootName ++ ".").toList.isPrefixOf logger.toList

end LogSource

inductive Handler where
  /-- a handler that others have added and that writes nothing -/
  | foreign (name : Option String)
  | console (level : LogLevel)
  | file (level : LogLevel) (path : String)
  deriving DecidableEq, Repr

namespace Handler

def consoleName : String := "md2adf.console"

def fileName : String := "md2adf.file"

def name : Handler → Option String
  | foreign name => name
  | console _ => some consoleName
  | file .. => some fileName

/-- Whether a handler goes by one of the names that configuring takes for itself. -/
def isOwned (h : Handler) : Bool := h.name == some consoleName || h.name == some fileName

/-- The level below which a handler passes records over, if it has one. -/
def level : Handler → Option LogLevel
  | foreign _ => none
  | console level | file level _ => some level

end Handler

/-- The state of the library's logger with what it has written. -/
structure Logging where
  /-- none as long as nothing was configured -/
  level : Option LogLevel := none
  handlers : List Handler := [.foreign none]
  /-- all text written to the console -/
  consoleText : String := ""
  files : Files.Tree := {}

namespace Logging

/-- The mark of the time at which a record is written. -/
def timeMark : String := "<time>"

/-- The width of the column of levels on the console. -/
def levelWidth : Nat := 8

/-- A record as a line on the console. -/
def consoleLine (r : LogRecord) : String :=
  timeMark ++ " [" ++ String.ofList (List.replicate (levelWidth - r.level.name.length) ' ') ++
    r.level.name ++ "] " ++ r.message ++ "\n"

/-- A record as a line in a file. -/
def fileLine (r : LogRecord) : String :=
  timeMark ++ " - " ++ r.logger ++ " - " ++ r.level.name ++ " - " ++ r.message ++ "\n"

/-- Whether a level lets a record through; no level lets every record through. -/
def passes (level : Option LogLevel) (r : LogRecord) : Bool :=
  level.all fun l => l.rank ≤ r.level.rank

/-- Hands a record to a handler. -/
def handle (s : Logging) (r : LogRecord) (h : Handler) : Logging :=
  if passes h.level r then
    match h with
    | .foreign _ => s
    | .console _ => { s with consoleText := s.consoleText ++ consoleLine r }
    | .file _ path =>
      match s.files.extend path (fileLine r).toUTF8.toList with
      | .ok files => { s with files }
      | .error _ => s
  else s

/-- Logs a record. It goes to the handlers if a logger of the library made it and its level
suffices. -/
def log (s : Logging) (r : LogRecord) : Logging :=
  if LogSource.covers r.logger && passes s.level r then s.handlers.foldl (handle · r ·) s else s

def logAll (s : Logging) (rs : List LogRecord) : Logging := rs.foldl log s

/-- The level of a verbosity. -/
def levelOf (verbosity : Int) : LogLevel :=
  if verbosity ≤ 0 then .warning else if verbosity = 1 then .info else .debug

/-- The name of the log file that is opened at a time, given as the digits of day and time. -/
def logFileName (stamp : String) : String := "md2adf_" ++ stamp ++ ".log"

/-- Makes the log directory. A refusal does not matter where the directory is there. -/
def makeLogDirectory (s : Files.Tree) (refusals : Files.Refusals) (directory : String) :
    Files.Tree × Except Files.AccessError Unit :=
  match refusals.makingDirectories with
  | some e => (s, if s.isDirectory directory then .ok () else .error e)
  | none => s.makeWithParents directory.length directory

/-- The path of the log file that is opened in a directory at a time. -/
def logPath (directory stamp : String) : String :=
  Files.joinPath (Files.normalPath directory) (logFileName stamp)

/-- Adds the handler of a log file, with the files as they are once it is open. -/
def installFile (s : Logging) (level : LogLevel) (path : String) (opened : Files.Tree) : Logging :=
  { s with files := opened, handlers := s.handlers ++ [.file level path] }

/-- Makes the log directory and opens the log file, after which the file exists. -/
def openLogFile (s : Logging) (refusals : Files.Refusals) (directory stamp : String)
    (level : LogLevel) : Logging × Except Files.AccessError String :=
  let (files, made) := makeLogDirectory s.files refusals (Files.normalPath directory)
  let s := { s with files }
  match made with
  | .error e => (s, .error e)
  | .ok _ =>
    let path := logPath directory stamp
    match Files.unlessRefused refusals.opening (s.files.extend path []) with
    | .error e => (s, .error e)
    | .ok opened => (s.installFile level path opened, .ok path)

/-- Sets the level and puts a new console handler in place of the handlers that go by its names. -/
def installConsole (s : Logging) (level : LogLevel) : Logging :=
  { s with level := some level,
           handlers := s.handlers.filter (fun h => !h.isOwned) ++ [.console level] }

/-- The log record of a log file that was opened. -/
def openingRecord (path : String) : LogRecord :=
  ⟨.info, LogSource.rootName, "Logging to file: " ++ path⟩

/-- Configures the logger. A directory adds a log file; the console is set up first and stays when
the file cannot be opened. -/
def configure (s : Logging) (verbosity : Int) (directory : Option String) (stamp : String)
    (refusals : Files.Refusals := {}) : Logging × Except Files.AccessError Unit :=
  let level := levelOf verbosity
  let s := s.installConsole level
  match directory with
  | none => (s, .ok ())
  | some d =>
    if d = "" then (s, .ok ())
    else
      match s.openLogFile refusals d stamp level with
      | (s, .error e) => (s, .error e)
      | (s, .ok path) => (s.log (openingRecord path), .ok ())

/-- Adds a handler of someone else, which may have a name. -/
def addForeign (s : Logging) (name : Option String) : Logging :=
  { s with handlers := s.handlers ++ [.foreign name] }

end Logging

end MarkdownAdf
