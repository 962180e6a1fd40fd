import MarkdownAdf.Node.LocalId
import MarkdownAdf.Node.Record
import MarkdownAdf.Outline.Reader
import MarkdownAdf.Resolve.Block
import MarkdownAdf.Text.Lines

/-!
# Conversion of Markdown

A conversion tokenizes its text, reads the outline of the tokens and turns it into a document, which
has at least one block. It gives the document with its warnings, or one of three failures, and in
both cases the log records that it wrote.
-/

namespace MarkdownAdf

/-- The nodes of a row of tokens. -/
def Site.resolve (s : Site) (tokens : List Token) : Outcome (List Node) :=
  s.blocks (Outline.ofTokens tokens)

/-- What can end a conversion. -/
inductive Failure where
  | options (e : OptionFailure)
  | notText (type : String)
  | rejected (w : Warning)
  deriving DecidableEq

/-- The message of a failure. -/
def Failure.message : Failure → String
  | options e => e.message
  | notText type => "markdown must be a string, got " ++ type
  | rejected w => w.errorMessage

structure Conversion where
  document : Document
  warnings : List Warning := []

namespace Conversion

/-- The warnings of one kind. -/
def warningsOfKind (c : Conversion) (kind : WarningKind) : List Warning :=
  c.warnings.filter fun w => w.kind == kind

end Conversion

/-- A result with the log records written on the way to it. -/
structure Logged (α : Type) where
  records : List LogRecord
  result : α

/-- The document of a text without content. -/
def Document.blank : Document := { content := [Node.paragraph] }

/-- The record of a tokenizer that failed. -/
def Warning.untokenized (reason : String) : Warning :=
  { kind := .invalidSyntax, message := "Markdown tokenization failed: " ++ reason }

namespace Profile

/-- The log record of a profile that was put together. -/
def resolvedRecord (p : Profile) : LogRecord :=
  ⟨.debug, LogSource.converter.name, "Resolved conversion options: " ++ p.text⟩

/-- The log record of a conversion that came to its end. -/
def convertedRecord (p : Profile) (markdown : String) (blocks warnings : Nat) : LogRecord :=
  ⟨.info, LogSource.converter.name,
    "Converted markdown (" ++ toString markdown.length ++ " chars) to " ++ toString blocks ++
      " block(s) with " ++ toString warnings ++ " warning(s) [preset=" ++ p.preset.name ++ "]"⟩

/-- Turns tokens of a text into a document without local ids. -/
def convertTokens (p : Profile) (markdown : String) (tokens : List Token) :
    Logged (Except Failure Conversion) :=
  let outcome := (Site.mk p (Text.lines markdown)).resolve tokens
  let records := outcome.events.map Event.record
  match outcome.result with
  | .error n => ⟨records, .error (.rejected n.rejection)⟩
  | .ok nodes =>
    let content := Node.orParagraph nodes
    let log := warnings outcome.events
    ⟨records ++ [p.convertedRecord markdown content.length log.length],
      .ok ⟨{ content }, log⟩⟩

/-- Converts a text. A text of blanks is not tokenized. -/
def convertText (p : Profile) (tokenize : String → Except String (List Token)) (markdown : String) :
    Logged (Except Failure Conversion) :=
  if Text.isBlankText markdown then ⟨[], .ok ⟨Document.blank, []⟩⟩
  else
    match tokenize markdown with
    | .error reason => ⟨[], .error (.rejected (Warning.untokenized reason))⟩
    | .ok tokens => p.convertTokens markdown tokens

/-- Converts a value, which has to be a text, and numbers the local ids of the document. -/
def convert (p : Profile) (id : Nat → String) (tokenize : String → Except String (List Token)) :
    Value → Logged (Except Failure Conversion)
  | .str markdown =>
    let converted := p.convertText tokenize markdown
    ⟨converted.records, converted.result.map fun c => { c with document := c.document.label id }⟩
  | v => ⟨[], .error (.notText v.typeName)⟩

end Profile

/-- Puts a profile together and converts. -/
def convert (source : OptionSource) (id : Nat → String)
    (tokenize : String → Except String (List Token)) (markdown : Value) :
    Logged (Except Failure Conversion) :=
  match source.resolve with
  | .error e => ⟨[], .error (.options e)⟩
  | .ok p =>
    let converted := p.convert id tokenize markdown
    ⟨p.resolvedRecord :: converted.records, converted.result⟩

end MarkdownAdf
