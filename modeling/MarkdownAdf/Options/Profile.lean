import MarkdownAdf.Options.Error
import MarkdownAdf.Text.Blank
import MarkdownAdf.Text.Fold

/-!
# Profiles

A profile is what a conversion goes by: every option with a value. `Options.resolve` fills the
options that are unset from the preset and checks the others.
-/

namespace MarkdownAdf

structure Profile where
  preset : Preset := .default
  useHeadings : Bool := false
  maxHeadingLevel : Nat := 6
  preserveLineBreaks : Bool := false
  strictMode : Bool := false
  defaultCodeLanguage : String := "text"
  warnOnRiskyNodes : Bool := false
  deriving DecidableEq, Repr, Inhabited

/-- The profile of a preset when no other option is set. -/
def Preset.profile (p : Preset) : Profile :=
  { preset := p, useHeadings := p == .story, warnOnRiskyNodes := p == .comment }

namespace Profile

/-- The values of a profile, setting by setting. -/
def get (p : Profile) : Setting → Value
  | .preset => .preset p.preset
  | .useHeadings => .bool p.useHeadings
  | .maxHeadingLevel => .int p.maxHeadingLevel
  | .preserveLineBreaks => .bool p.preserveLineBreaks
  | .strictMode => .bool p.strictMode
  | .defaultCodeLanguage => .str p.defaultCodeLanguage
  | .warnOnRiskyNodes => .bool p.warnOnRiskyNodes

/-- A profile in the log. -/
def text (p : Profile) : String :=
  "ResolvedOptions(" ++
    ", ".intercalate (Setting.all.map fun x => x.name ++ "=" ++ (p.get x).quoted) ++ ")"

end Profile

/-- The preset that a value stands for; names may have any letter case and blanks around them. -/
def Preset.ofValue : Value → Except OptionFailure Preset
  | .null => .ok .default
  | .preset p => .ok p
  | .str s =>
    match Preset.ofName? (Text.lowerWord (Text.trim s)) with
    | some p => .ok p
    | none => .error (ConfigError.report (.unknownPreset (.str s)))
  | v => .error (ConfigError.report (.unknownPreset v))

namespace Options

/-- Sets the setting that the key of an entry stands for. -/
def enter (o : Options) (entry : Value × Value) : Except OptionFailure Options :=
  match Setting.ofKey? entry.1 with
  | some x => .ok (o.set x entry.2)
  | none => .error (ConfigError.report (.unknownOption entry.1))

/-- Options from a mapping in which settings go by either spelling; a later entry wins. -/
def ofMapping (entries : List (Value × Value)) : Except OptionFailure Options :=
  entries.foldlM enter {}

/-- The value of a flag, by default that of the preset. -/
def flag (o : Options) (x : Setting) (default : Bool) : Except OptionFailure Bool :=
  match o.get x with
  | .null => .ok default
  | .bool b => .ok b
  | v => .error (ConfigError.report (.notBoolean x v.typeName))

/-- The deepest heading level. -/
def level (o : Options) (default : Nat) : Except OptionFailure Nat :=
  match o.maxHeadingLevel with
  | .null => .ok default
  | .int n =>
    if 1 ≤ n ∧ n ≤ 6 then .ok n.toNat else .error (ConfigError.report (.levelOutOfRange n))
  | v => .error (ConfigError.report (.levelNotInteger v.typeName))

/-- The language of code that names none. -/
def language (o : Options) (default : String) : Except OptionFailure String :=
  match o.defaultCodeLanguage with
  | .null => .ok default
  | .str s => .ok s
  | v => .error (ConfigError.report (.languageNotText v.typeName))

/-- Fills and checks options. Of several faults the preset is reported first, then the flags in
their order, then the level, then the language. -/
def resolve (o : Options) : Except OptionFailure Profile := do
  let preset ← Preset.ofValue o.preset
  let base := preset.profile
  let useHeadings ← o.flag .useHeadings base.useHeadings
  let preserveLineBreaks ← o.flag .preserveLineBreaks base.preserveLineBreaks
  let strictMode ← o.flag .strictMode base.strictMode
  let warnOnRiskyNodes ← o.flag .warnOnRiskyNodes base.warnOnRiskyNodes
  let maxHeadingLevel ← o.level base.maxHeadingLevel
  let defaultCodeLanguage ← o.language base.defaultCodeLanguage
  return { preset, useHeadings, maxHeadingLevel, preserveLineBreaks, strictMode,
           defaultCodeLanguage, warnOnRiskyNodes }

end Options

/-- What a caller may pass for options. -/
inductive OptionSource where
  | record (o : Options)
  | value (v : Value)

/-- The options that a caller means: null is no option at all, and a map is read as a mapping. -/
def OptionSource.options : OptionSource → Except OptionFailure Options
  | .record o => .ok o
  | .value .null => .ok {}
  | .value (.map entries) => Options.ofMapping entries
  | .value v => .error (ConfigError.report (.notOptions v.typeName))

def OptionSource.resolve (s : OptionSource) : Except OptionFailure Profile :=
  s.options >>= Options.resolve

end MarkdownAdf
