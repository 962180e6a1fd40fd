import MarkdownAdf.Options.Basic

/-!
# What can be wrong with options

An error carries what its message shows. Where that includes an integer too long to be turned into
text there is no message, and the attempt to report the error fails in its turn (`longNumber`).
-/

namespace MarkdownAdf

inductive ConfigError where
  | notOptions (type : String)
  | unknownOption (key : Value)
  | unknownPreset (value : Value)
  | notBoolean (setting : Setting) (type : String)
  | levelNotInteger (type : String)
  | levelOutOfRange (level : Int)
  | languageNotText (type : String)
  | variableNotBoolean (name : String) (setting : Setting) (text : String)
  | variableNotInteger (name : String) (setting : Setting) (text : String)
  | invalidYaml
  | fileNotMapping (type : String)
  /-- a fault that a caller words -/
  | stated (message : String) (field : Value)
  deriving DecidableEq

namespace ConfigError

/-- What is wrong, without the name of the option. -/
def reason : ConfigError → String
  | notOptions type => "Options must be ConversionOptions or a mapping, got " ++ type
  | unknownOption key => "Unknown option '" ++ key.text ++ "'"
  | unknownPreset value =>
    "Unknown preset " ++ value.quoted ++ " (expected one of: " ++
      ", ".intercalate (Preset.all.map Preset.name) ++ ")"
  | notBoolean _ type => "Must be a boolean, got " ++ type
  | levelNotInteger type => "Must be an integer, got " ++ type
  | levelOutOfRange level => "Must be between 1 and 6, got " ++ toString level
  | languageNotText type => "Must be a string, got " ++ type
  | variableNotBoolean name _ text => name ++ " must be a boolean, got " ++ Text.quoted text
  | variableNotInteger name _ text => name ++ " must be an integer, got " ++ Text.quoted text
  | invalidYaml => "Invalid YAML syntax"
  | fileNotMapping type => "Configuration must be a YAML dictionary, got " ++ type
  | stated message _ => message

/-- The option that is at fault, null when it is none in particular. -/
def field : ConfigError → Value
  | unknownOption key => key
  | unknownPreset _ => .str Setting.preset.name
  | notBoolean setting _ => .str setting.name
  | levelNotInteger _ | levelOutOfRange _ => .str Setting.maxHeadingLevel.name
  | languageNotText _ => .str Setting.defaultCodeLanguage.name
  | variableNotBoolean _ setting _ | variableNotInteger _ setting _ => .str setting.name
  | stated _ field => field
  | notOptions _ | invalidYaml | fileNotMapping _ => .null

/-- The whole message. -/
def message (e : ConfigError) : String :=
  if e.field.isPresent then
    "Configuration error in field '" ++ e.field.text ++ "': " ++ e.reason
  else "Configuration error: " ++ e.reason

/-- Whether the message can be put together: everything that it shows can be shown. -/
def isShowable : ConfigError → Bool
  | unknownOption key => key.isShowable
  | unknownPreset value => value.isShowable
  | levelOutOfRange level => (Value.int level).isShowable
  | stated _ field => field.isShowable
  | _ => true

end ConfigError

/-- Why options were not taken. -/
inductive OptionFailure where
  | config (e : ConfigError)
  /-- an error whose message would show an integer of too many digits -/
  | longNumber
  deriving DecidableEq

/-- The message of a failure. -/
def OptionFailure.message : OptionFailure → String
  | config e => e.message
  | longNumber =>
    "Exceeds the limit (" ++ toString Text.maxDigits ++
      " digits) for integer string conversion; use sys.set_int_max_str_digits() to increase the " ++
      "limit"

/-- What comes of reporting an error. -/
def ConfigError.report (e : ConfigError) : OptionFailure :=
  if e.isShowable then .config e else .longNumber

namespace ConfigError

@[simp]
theorem report_eq_config_iff {e e' : ConfigError} :
    e.report = .config e' ↔ e = e' ∧ e.isShowable = true := by
  rw [report]
  split <;> simp [*]

@[simp]
theorem report_eq_longNumber_iff {e : ConfigError} :
    e.report = .longNumber ↔ e.isShowable = false := by
  rw [report]
  split <;> simp [*]

end ConfigError

end MarkdownAdf
