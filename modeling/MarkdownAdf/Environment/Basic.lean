import MarkdownAdf.Options.Profile
import MarkdownAdf.Text.Digit

/-!
# Options from the environment

Every setting has a variable. A variable that is missing or blank leaves its setting unset; flags
and the level are read from words and integer literals, the other settings are taken as they stand.
-/

namespace MarkdownAdf

/-- Variables with their values; of two entries with one name the first counts. -/
abbrev Environment := List (String × String)

/-- The variable of a setting. -/
def Setting.variable : Setting → String
  | preset => "MD2ADF_PRESET"
  | useHeadings => "MD2ADF_USE_HEADINGS"
  | maxHeadingLevel => "MD2ADF_MAX_HEADING_LEVEL"
  | preserveLineBreaks => "MD2ADF_PRESERVE_LINE_BREAKS"
  | strictMode => "MD2ADF_STRICT_MODE"
  | defaultCodeLanguage => "MD2ADF_DEFAULT_CODE_LANGUAGE"
  | warnOnRiskyNodes => "MD2ADF_WARN_ON_RISKY_NODES"

namespace Environment

def trueWords : List String := ["1", "true", "yes", "on"]

def falseWords : List String := ["0", "false", "no", "off"]

/-- The flag that a word names, in any letter case. -/
def flag? (word : String) : Option Bool :=
  let w := Text.lowerWord word
  if trueWords.contains w then some true
  else if falseWords.contains w then some false
  else none

/-- The value of a setting, read from the trimmed text of its variable. -/
def readSetting (x : Setting) (text : String) : Except ConfigError Value :=
  if x.isFlag then
    match flag? text with
    | some b => .ok (.bool b)
    | none => .error (.variableNotBoolean x.variable x text)
  else if x = .maxHeadingLevel then
    match Text.readInteger? text with
    | some n => .ok (.int n)
    | none => .error (.variableNotInteger x.variable x text)
  else .ok (.str text)

/-- Adds the setting of a variable to options. -/
def addSetting (env : Environment) (o : Options) (x : Setting) : Except ConfigError Options :=
  match env.lookup x.variable with
  | none => .ok o
  | some raw =>
    if Text.isBlankText raw then .ok o
    else (readSetting x (Text.trim raw)).map (o.set x)

/-- The options of an environment. Settings are read in their order, so the first one at fault is
reported. -/
def options (env : Environment) : Except ConfigError Options :=
  Setting.all.foldlM (addSetting env) {}

/-- Adds the bindings that have a value, except those that the environment holds already. -/
def adopt (env : Environment) (bindings : List (String × Option String)) : Environment :=
  env ++ (bindings.filterMap fun v =>
    if (env.lookup v.1).isSome then none else v.2.map (v.1, ·))

end Environment

end MarkdownAdf
