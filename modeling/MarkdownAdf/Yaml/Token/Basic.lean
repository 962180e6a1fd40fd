/-!
# Tokens of YAML
-/

namespace MarkdownAdf.Yaml

/-- Why a text is no YAML that can be read. The last four are about values whose tag or form
promises a type that their text does not have. -/
inductive Fault where
  | malformed
  | escapeOutOfRange (code : Nat)
  | notANumber (text : String)
  | emptyNumber
  | notABoolean (text : String)
  | notATime (text : String)
  | impossibleDate (text : String)
  deriving DecidableEq, Repr

inductive Token where
  | versionDirective (major minor : Nat)
  | tagDirective (handle value : String)
  | otherDirective
  | documentStart
  | documentEnd
  | blockSequenceStart
  | blockMappingStart
  | blockEnd
  | flowSequenceStart
  | flowSequenceEnd
  | flowMappingStart
  | flowMappingEnd
  | flowEntry
  | blockEntry
  | key
  | value
  | alias (name : String)
  | anchor (name : String)
  | tag (handle : Option String) (suffix : String)
  | scalar (text : String) (plain : Bool)
  | streamEnd
  deriving DecidableEq, Repr

end MarkdownAdf.Yaml
