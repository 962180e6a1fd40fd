import MarkdownAdf.Log.Record
import MarkdownAdf.Text.Quoted
import MarkdownAdf.Warning

/-!
# Events of a conversion

What a conversion notes while it goes through the tokens, in the order in which it meets it. The
warning log and the log records are both read off the events.
-/

namespace MarkdownAdf

inductive Event where
  | skippedBlock (name : String)
  | ignoredInline (name : String)
  | ignoredMarkup (content : String)
  | splitList (line : Option Int) (parts : Nat)
  | warned (n : Notice)
  | aborting (n : Notice)
  deriving DecidableEq, Repr

namespace Event

/-- The notice of a warning. -/
def notice? : Event → Option Notice
  | warned n => some n
  | _ => none

/-- A line number in the log. -/
def lineText : Option Int → String
  | some n => toString n
  | none => "None"

/-- The log record of an event. -/
def record : Event → LogRecord
  | skippedBlock name => ⟨.debug, LogSource.blocks.name, "Skipping block token: " ++ name⟩
  | ignoredInline name => ⟨.debug, LogSource.inlines.name, "Ignoring inline token: " ++ name⟩
  | ignoredMarkup content =>
    ⟨.debug, LogSource.inlines.name, "Ignoring raw inline markup: " ++ Text.quoted content⟩
  | splitList line parts =>
    ⟨.debug, LogSource.blocks.name,
      "Split list at line " ++ lineText line ++ " into " ++ toString parts ++ " lists"⟩
  | warned n => ⟨.warning, LogSource.blocks.name, n.warning.logMessage⟩
  | aborting n => ⟨.debug, LogSource.blocks.name, "Aborting conversion: " ++ n.rejection.message⟩

end Event

/-- The notices among events, in order. -/
def notices (events : List Event) : List Notice := events.filterMap Event.notice?

/-- The warning log of events. -/
def warnings (events : List Event) : List Warning := (notices events).map Notice.warning

end MarkdownAdf
