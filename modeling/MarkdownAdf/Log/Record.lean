/-!
# Log records
-/

namespace MarkdownAdf

/-- A level by its rank; more severe levels have higher ranks, and any number is one. -/
structure LogLevel where
  rank : Int
  deriving DecidableEq, Repr

namespace LogLevel

def debug : LogLevel := ⟨10⟩

def info : LogLevel := ⟨20⟩

def warning : LogLevel := ⟨30⟩

def error : LogLevel := ⟨40⟩

def critical : LogLevel := ⟨50⟩

/-- The levels that have names. -/
def named : List (LogLevel × String) :=
  [(⟨0⟩, "NOTSET"), (debug, "DEBUG"), (info, "INFO"), (warning, "WARNING"), (error, "ERROR"),
    (critical, "CRITICAL")]

def name (l : LogLevel) : String := (named.lookup l).getD ("Level " ++ toString l.rank)

def ofName? (s : String) : Option LogLevel := (named.find? fun e => e.2 = s).map (·.1)

end LogLevel

structure LogRecord where
  level : LogLevel
  /-- the dotted name of the logger, whose first part is the name of the library's own logger -/
  logger : String
  message : String
  deriving DecidableEq, Repr

/-- The loggers of the library. -/
inductive LogSource where
  | root
  | converter
  | blocks
  | inlines
  | files
  deriving DecidableEq, Repr

/-- The name of the library's own logger. -/
def LogSource.rootName : String := "md2adf"

def LogSource.name : LogSource → String
  | root => rootName
  | converter => rootName ++ ".converter.markdown_converter"
  | blocks => rootName ++ ".converter.block_resolver"
  | inlines => rootName ++ ".converter.inline_resolver"
  | files => rootName ++ ".config.config_loader"

end MarkdownAdf
