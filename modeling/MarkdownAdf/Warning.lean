import MarkdownAdf.Preset

/-!
# Warnings

A conversion records what it could not carry over. In strict mode some of these issues end the
conversion instead, and the error then carries the record that would have been logged.
-/

namespace MarkdownAdf

inductive WarningKind where
  | invalidSyntax
  | unsupportedFeature
  | lossyConversion
  | riskyFeature
  deriving DecidableEq, Repr

namespace WarningKind

def name : WarningKind → String
  | invalidSyntax => "invalid_syntax"
  | unsupportedFeature => "unsupported_feature"
  | lossyConversion => "lossy_conversion"
  | riskyFeature => "risky_feature"

def ofName? (s : String) : Option WarningKind :=
  [invalidSyntax, unsupportedFeature, lossyConversion, riskyFeature].find? fun k => k.name == s

end WarningKind

structure Warning where
  kind : WarningKind
  message : String
  line : Option Int := none
  sourceText : Option String := none
  deriving DecidableEq, Repr

namespace Warning

/-- Where the issue is, as a note behind a message. -/
def location (w : Warning) : String :=
  match w.line with
  | some n => " (line " ++ toString n ++ ")"
  | none => ""

/-- The message of the error that carries the warning. -/
def errorMessage (w : Warning) : String := w.message ++ w.location

/-- The line that the log shows for the warning. -/
def logMessage (w : Warning) : String := w.kind.name ++ ": " ++ w.message ++ w.location

end Warning

/-- What a conversion can take issue with. -/
inductive Issue where
  | headingUnsupported (preset : Preset)
  | headingTooDeep (level limit : Nat)
  | headingsOff
  | ruleUnsupported
  | itemBlocksDropped
  | taskBlocksDropped
  | quoteUnwrapped (preset : Preset)
  | tableRisky (preset : Preset)
  deriving DecidableEq, Repr

namespace Issue

/-- Whether the issue ends a strict conversion. -/
def isAbortable : Issue → Bool
  | headingUnsupported _ | headingTooDeep .. | ruleUnsupported => true
  | headingsOff | itemBlocksDropped | taskBlocksDropped | quoteUnwrapped _ | tableRisky _ => false

def reason : Issue → String
  | headingUnsupported p => "Headings are not supported in the " ++ p.name ++ " context"
  | headingTooDeep level limit =>
    "Heading level " ++ toString level ++ " exceeds maxHeadingLevel " ++ toString limit
  | headingsOff => "Headings are disabled (useHeadings is off)"
  | ruleUnsupported => "Horizontal rules are not supported in this context"
  | itemBlocksDropped =>
    "List items only support paragraphs and nested lists; unsupported blocks were dropped"
  | taskBlocksDropped => "Task list items only support inline content; extra blocks were dropped"
  | quoteUnwrapped p =>
    "Block quotes are not supported in the " ++ p.name ++ " context; converting to paragraphs"
  | tableRisky p =>
    "Tables in the " ++ p.name ++ " context are supported but render inconsistently in some views"

/-- Whether the issue is about a heading. -/
def isHeading : Issue → Bool
  | headingUnsupported _ | headingTooDeep .. | headingsOff => true
  | _ => false

def kind : Issue → WarningKind
  | ruleUnsupported => .unsupportedFeature
  | tableRisky _ => .riskyFeature
  | _ => .lossyConversion

/-- The message of the warning; that of a heading says what becomes of it. -/
def message (i : Issue) : String :=
  if i.isHeading then i.reason ++ "; converting to bold text" else i.reason

end Issue

/-- An issue with the place and the source text that it concerns. -/
structure Notice where
  issue : Issue
  line : Option Int := none
  sourceText : Option String := none
  deriving DecidableEq, Repr

namespace Notice

/-- The warning that a lenient conversion records. -/
def warning (n : Notice) : Warning :=
  ⟨n.issue.kind, n.issue.message, n.line, n.sourceText⟩

/-- The record with which a strict conversion ends. -/
def rejection (n : Notice) : Warning :=
  ⟨.unsupportedFeature, n.issue.reason, n.line, n.sourceText⟩

end Notice

end MarkdownAdf
