import MarkdownAdf.Converter
import MarkdownAdf.Files.Error
import MarkdownAdf.Files.Tree
import MarkdownAdf.Yaml.Printer.Value
import MarkdownAdf.Yaml.Value

/-!
# Option files

Options are kept in a file as a YAML mapping of the settings that are set.
-/

namespace MarkdownAdf

namespace Options

/-- The error of a file that could not be opened for reading. -/
def readFailure (path : String) : Files.AccessError → FileFailure
  | .trouble .missing _ => .filesystem ⟨path, "read", some "Configuration file not found"⟩
  | .refused true _ => .filesystem ⟨path, "read", some "Permission denied"⟩
  | .unusablePath => .unusablePath
  | e => .filesystem ⟨path, "read", some e.text⟩

/-- The error of a directory that could not be made. -/
def directoryFailure (directory : String) : Files.AccessError → FileFailure
  | .unusablePath => .unusablePath
  | e => .filesystem ⟨directory, "create_directory", some e.text⟩

/-- The error of a file that could not be opened for writing. -/
def writeFailure (path : String) : Files.AccessError → FileFailure
  | .refused true _ => .filesystem ⟨path, "write", some "Permission denied"⟩
  | .unusablePath => .unusablePath
  | e => .filesystem ⟨path, "write", some e.text⟩

/-- The options that a document holds; a document without a value sets none. -/
def ofDocument : Value → Except OptionFailure Options
  | .null => .ok {}
  | .map entries => ofMapping entries
  | v => .error (ConfigError.report (.fileNotMapping v.typeName))

/-- The error of a text that is no YAML. -/
def yamlFailure : Yaml.Fault → FileFailure
  | .malformed => .options (ConfigError.report .invalidYaml)
  | fault => .unreadableScalar fault

/-- The options in the bytes of a file. -/
def ofBytes (content : Bytes) : Except FileFailure (Value × Options) :=
  match String.fromUTF8? ⟨content.toArray⟩ with
  | none => .error .notText
  | some text => do
    let document ← (Yaml.read (Text.unifyLineEnds text.toList)).mapError yamlFailure
    let options ← (ofDocument document).mapError .options
    return (document, options)

/-- The log record of options that were loaded. -/
def loadedRecord (path : String) (o : Options) : LogRecord :=
  ⟨.debug, LogSource.files.name,
    "Loaded conversion options from " ++ path ++ ": " ++ (Value.map o.toMapping).quoted⟩

/-- Notes in the log that options were loaded, which fails if they cannot be shown. A file without a
document is not worth a record. -/
def noteLoaded (path : String) (document : Value) (o : Options) :
    Logged (Except FileFailure Options) :=
  if document = Value.null then ⟨[], .ok o⟩
  else if (Value.map o.toMapping).isShowable then ⟨[loadedRecord path o], .ok o⟩
  else ⟨[], .error (.options .longNumber)⟩

/-- Loads options. -/
def load (s : Files.Tree) (refusals : Files.Refusals) (path : String) :
    Logged (Except FileFailure Options) :=
  match Files.unlessRefused refusals.opening (s.contentAt path) with
  | .error e => ⟨[], .error (readFailure path e)⟩
  | .ok content =>
    match ofBytes content with
    | .error e => ⟨[], .error e⟩
    | .ok (document, o) => noteLoaded path document o

/-- The text of an option file. -/
def toText (o : Options) : String := Yaml.write (.map o.toMapping)

/-- Makes the directory of a path, if it names one. -/
def saveDirectory (s : Files.Tree) (refusals : Files.Refusals) (path : String) :
    Files.Tree × Except FileFailure Unit :=
  let directory := Files.directoryOf path
  if directory = "" then (s, .ok ())
  else
    match refusals.makingDirectories with
    | some e => (s, .error (directoryFailure directory e))
    | none =>
      let (s, made) := s.ensureDirectories directory.length directory
      (s, made.mapError (directoryFailure directory))

/-- Writes a text to the file of a path, whose directory is made first. -/
def saveText (s : Files.Tree) (refusals : Files.Refusals) (path : String) (content : Bytes) :
    Files.Tree × Except FileFailure Unit :=
  match saveDirectory s refusals path with
  | (s, .error e) => (s, .error e)
  | (s, .ok _) =>
    match Files.unlessRefused refusals.opening (s.store path content) with
    | .ok s => (s, .ok ())
    | .error e => (s, .error (writeFailure path e))

/-- Saves options. The text is put together first, so that options which cannot be shown touch
nothing. -/
def save (s : Files.Tree) (refusals : Files.Refusals) (path : String) (o : Options) :
    Files.Tree × Except FileFailure Unit :=
  if (Value.map o.toMapping).isShowable then saveText s refusals path o.toText.toUTF8.toList
  else (s, .error (.options .longNumber))

end Options

end MarkdownAdf
