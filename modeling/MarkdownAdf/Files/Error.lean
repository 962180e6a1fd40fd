import MarkdownAdf.Options.Error
import MarkdownAdf.Yaml.Token.Basic

/-!
# Errors with option files
-/

namespace MarkdownAdf

/-- A file operation that failed. -/
structure FilesystemError where
  path : String
  operation : String
  reason : Option String := none
  deriving DecidableEq, Repr

namespace FilesystemError

def message (e : FilesystemError) : String :=
  "Filesystem operation '" ++ e.operation ++ "' failed for " ++ e.path ++
    match e.reason with
    | some reason => if reason = "" then "" else ": " ++ reason
    | none => ""

end FilesystemError

/-- Why an option file could not be loaded or saved. The last three are no errors of this library: a
file that is no text, a scalar whose tag does not fit it, and a path that no system can take. -/
inductive FileFailure where
  | filesystem (e : FilesystemError)
  | options (e : OptionFailure)
  | notText
  | unreadableScalar (fault : Yaml.Fault)
  | unusablePath
  deriving DecidableEq

end MarkdownAdf
