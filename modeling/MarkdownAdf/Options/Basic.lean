import MarkdownAdf.Value.Printer

/-!
# Conversion options

Every option may be left unset, which is kept as null. Values are not checked here: an option file
may hold anything, and `Options.resolve` says what is wrong with it.
-/

namespace MarkdownAdf

/-- The options by name, in the order in which they are listed and written. -/
inductive Setting where
  | preset
  | useHeadings
  | maxHeadingLevel
  | preserveLineBreaks
  | strictMode
  | defaultCodeLanguage
  | warnOnRiskyNodes
  deriving DecidableEq, Repr

namespace Setting

def all : List Setting :=
  [preset, useHeadings, maxHeadingLevel, preserveLineBreaks, strictMode, defaultCodeLanguage,
    warnOnRiskyNodes]

def name : Setting → String
  | preset => "preset"
  | useHeadings => "use_headings"
  | maxHeadingLevel => "max_heading_level"
  | preserveLineBreaks => "preserve_line_breaks"
  | strictMode => "strict_mode"
  | defaultCodeLanguage => "default_code_language"
  | warnOnRiskyNodes => "warn_on_risky_nodes"

/-- The other spelling of the name that mappings may use. -/
def camelName : Setting → String
  | preset => "preset"
  | useHeadings => "useHeadings"
  | maxHeadingLevel => "maxHeadingLevel"
  | preserveLineBreaks => "preserveLineBreaks"
  | strictMode => "strictMode"
  | defaultCodeLanguage => "defaultCodeLanguage"
  | warnOnRiskyNodes => "warnOnRiskyNodes"

/-- The setting of a name in its plain spelling. -/
def ofName? (s : String) : Option Setting := all.find? fun x => x.name == s

/-- The setting that a key of a mapping stands for, in either spelling. -/
def ofKey? : Value → Option Setting
  | .str s => all.find? fun x => x.name == s || x.camelName == s
  | _ => none

/-- Whether the setting is a flag. -/
def isFlag : Setting → Bool
  | useHeadings | preserveLineBreaks | strictMode | warnOnRiskyNodes => true
  | preset | maxHeadingLevel | defaultCodeLanguage => false

@[simp]
theorem ofName?_name (x : Setting) : ofName? x.name = some x := by
  cases x <;> rfl

@[simp]
theorem ofKey?_name (x : Setting) : ofKey? (.str x.name) = some x := by
  cases x <;> rfl

@[simp]
theorem ofKey?_camelName (x : Setting) : ofKey? (.str x.camelName) = some x := by
  cases x <;> rfl

theorem mem_all (x : Setting) : x ∈ all := by
  cases x <;> decide

end Setting

/-- Options as a caller gives them. -/
structure Options where
  preset : Value := .null
  useHeadings : Value := .null
  maxHeadingLevel : Value := .null
  preserveLineBreaks : Value := .null
  strictMode : Value := .null
  defaultCodeLanguage : Value := .null
  warnOnRiskyNodes : Value := .null
  deriving DecidableEq, Inhabited

namespace Options

def get (o : Options) : Setting → Value
  | .preset => o.preset
  | .useHeadings => o.useHeadings
  | .maxHeadingLevel => o.maxHeadingLevel
  | .preserveLineBreaks => o.preserveLineBreaks
  | .strictMode => o.strictMode
  | .defaultCodeLanguage => o.defaultCodeLanguage
  | .warnOnRiskyNodes => o.warnOnRiskyNodes

def set (o : Options) (x : Setting) (v : Value) : Options :=
  match x with
  | .preset => { o with preset := v }
  | .useHeadings => { o with useHeadings := v }
  | .maxHeadingLevel => { o with maxHeadingLevel := v }
  | .preserveLineBreaks => { o with preserveLineBreaks := v }
  | .strictMode => { o with strictMode := v }
  | .defaultCodeLanguage => { o with defaultCodeLanguage := v }
  | .warnOnRiskyNodes => { o with warnOnRiskyNodes := v }

@[simp]
theorem get_set_self (o : Options) (x : Setting) (v : Value) : (o.set x v).get x = v := by
  cases x <;> rfl

theorem get_set_of_ne (o : Options) {x y : Setting} (v : Value) (h : x ≠ y) :
    (o.set x v).get y = o.get y := by
  cases x <;> cases y <;> first | rfl | exact absurd rfl h

theorem ext_get {o p : Options} (h : ∀ x, o.get x = p.get x) : o = p := by
  cases o; cases p
  have h1 := h .preset
  have h2 := h .useHeadings
  have h3 := h .maxHeadingLevel
  have h4 := h .preserveLineBreaks
  have h5 := h .strictMode
  have h6 := h .defaultCodeLanguage
  have h7 := h .warnOnRiskyNodes
  simp_all [get]

/-- The value under which a set option is written: a preset goes by its name. -/
def written : Value → Value
  | .preset p => .str p.name
  | v => v

/-- The options that are set, by name and in the order of `Setting.all`. -/
def toMapping (o : Options) : List (Value × Value) :=
  (Setting.all.filter fun x => o.get x ≠ .null).map fun x => (.str x.name, written (o.get x))

/-- Options from named values; a name that is no setting gives none. -/
def ofFields? : List (String × Value) → Option Options :=
  List.foldlM (fun o f => (Setting.ofName? f.1).map (o.set · f.2)) {}

end Options

end MarkdownAdf
