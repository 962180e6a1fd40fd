import MarkdownAdf.Proofs.Options.Mapping

/-!
# What options resolve to

Options resolve to a profile when every key of the mapping is known and every setting accepts the
value that is given for it. The profile then has the given values, and those of its preset where
none is given. Otherwise the error is about the first unknown key or, when all keys are known, about
the first setting that does not accept its value. If the message of that error would have to show an
integer of too many digits, there is no such error and resolving fails in another way.
-/

namespace MarkdownAdf

namespace Preset

/-- Whether a value stands for the preset. -/
def isMeantBy (p : Preset) : Value → Bool
  | .null => p = .default
  | .preset q => p = q
  | .str s => p.name = Text.lowerWord (Text.trim s)
  | _ => false

theorem mem_all (p : Preset) : p ∈ all := by
  cases p <;> decide

theorem ofName?_eq_some_iff {s : String} {p : Preset} : ofName? s = some p ↔ p.name = s := by
  constructor
  · intro h
    simpa using List.find?_some h
  · rintro rfl
    exact ofName?_name p

theorem ofValue_eq_ok_iff {v : Value} {p : Preset} : ofValue v = .ok p ↔ p.isMeantBy v = true := by
  cases v with
  | null => simp [ofValue, isMeantBy, eq_comm]
  | preset q => simp [ofValue, isMeantBy, eq_comm]
  | str s =>
      simp only [ofValue, isMeantBy, decide_eq_true_eq, ← ofName?_eq_some_iff]
      cases ofName? (Text.lowerWord (Text.trim s)) <;> simp
  | _ => simp [ofValue, isMeantBy]

theorem eq_report_of_ofValue {v : Value} {failure : OptionFailure}
    (h : ofValue v = .error failure) : failure = ConfigError.report (.unknownPreset v) := by
  cases v with
  | null => cases h
  | preset p => cases h
  | str s =>
      simp only [ofValue] at h
      split at h <;> cases h
      rfl
  | _ =>
      cases h
      rfl

end Preset

namespace Setting

/-- Whether a value may be given for the setting. -/
def accepts : Setting → Value → Bool
  | preset, v => Preset.all.any fun p => p.isMeantBy v
  | _, .null => true
  | maxHeadingLevel, .int n => 1 ≤ n && n ≤ 6
  | defaultCodeLanguage, .str _ => true
  | x, .bool _ => x.isFlag
  | _, _ => false

theorem accepts_flag {x : Setting} (hx : x.isFlag = true) (v : Value) :
    x.accepts v = match v with
      | .null | .bool _ => true
      | _ => false := by
  cases x with
  | preset | maxHeadingLevel | defaultCodeLanguage => cases hx
  | _ => cases v <;> rfl

/-- The error of a setting that does not accept a value. -/
def refusal : Setting → Value → ConfigError
  | preset, v => .unknownPreset v
  | maxHeadingLevel, .int n => .levelOutOfRange n
  | maxHeadingLevel, v => .levelNotInteger v.typeName
  | defaultCodeLanguage, v => .languageNotText v.typeName
  | x, v => .notBoolean x v.typeName

theorem field_refusal (x : Setting) (v : Value) : (x.refusal v).field = .str x.name := by
  cases x <;> cases v <;> rfl

theorem refusal_flag {x : Setting} (hx : x.isFlag = true) (v : Value) :
    x.refusal v = .notBoolean x v.typeName := by
  cases x with
  | preset | maxHeadingLevel | defaultCodeLanguage => cases hx
  | _ => rfl

/-- What the error of a setting shows of a value that it does not accept, besides its type. -/
def shown? : Setting → Value → Option Value
  | preset, v => some v
  | maxHeadingLevel, .int n => some (.int n)
  | _, _ => none

theorem isShowable_refusal_eq_false_iff {x : Setting} {v : Value} :
    (x.refusal v).isShowable = false ↔ ∃ w ∈ x.shown? v, w.isShowable = false := by
  cases x with
  | preset => simp [refusal, shown?, ConfigError.isShowable]
  | maxHeadingLevel => cases v <;> simp [refusal, shown?, ConfigError.isShowable]
  | _ => simp [refusal, shown?, ConfigError.isShowable]

/-- The settings in the order in which they are checked. -/
def checkOrder : List Setting :=
  [preset, useHeadings, preserveLineBreaks, strictMode, warnOnRiskyNodes, maxHeadingLevel,
    defaultCodeLanguage]

theorem mem_checkOrder (x : Setting) : x ∈ checkOrder := by
  cases x <;> decide

/-- The first of some settings that does not accept the value that is given for it. -/
def refused? (given : Setting → Value) (xs : List Setting) : Option Setting :=
  xs.find? fun x => !x.accepts (given x)

theorem refused?_cons (given : Setting → Value) (x : Setting) (xs : List Setting) :
    refused? given (x :: xs) = (refused? given [x]).or (refused? given xs) := by
  rw [refused?, ← List.singleton_append, List.find?_append]
  rfl

theorem refused?_checkOrder_eq_none_iff {given : Setting → Value} :
    refused? given checkOrder = none ↔ ∀ x : Setting, x.accepts (given x) = true := by
  simp [refused?, List.find?_eq_none, mem_checkOrder]

end Setting

/-- The value of a setting: the one that is given or, when that is null, the one of the preset. -/
def settled (given default : Value) : Value := if given = .null then default else given

/-- Whether a profile goes by the preset that is given and has the settled values for the other
settings. -/
structure Profile.SettledBy (p : Profile) (given : Setting → Value) : Prop where
  preset : p.preset.isMeantBy (given .preset) = true
  values : ∀ x, x ≠ .preset → p.get x = settled (given x) (p.preset.profile.get x)

namespace Options

variable {α β : Type} {o : Options}

/-- A check of settings gives a result with a property if all of them accept their values, and
otherwise reports the first that does not. -/
def Checks (o : Options) (xs : List Setting) (r : Except OptionFailure α) (P : α → Prop) : Prop :=
  match r with
  | .ok a => Setting.refused? o.get xs = none ∧ P a
  | .error failure =>
    ∃ x, Setting.refused? o.get xs = some x ∧ failure = (x.refusal (o.get x)).report

theorem Checks.bind {x : Setting} {xs : List Setting} {r : Except OptionFailure α}
    {f : α → Except OptionFailure β} {P : α → Prop} {Q : β → Prop} (hr : o.Checks [x] r P)
    (hf : ∀ a, P a → o.Checks xs (f a) Q) : o.Checks (x :: xs) (r >>= f) Q := by
  cases r with
  | error e =>
      obtain ⟨y, hy, hreport⟩ := hr
      exact ⟨y, by rw [Setting.refused?_cons, hy, Option.some_or], hreport⟩
  | ok a =>
      obtain ⟨hx, ha⟩ := hr
      have hxs : Setting.refused? o.get (x :: xs) = Setting.refused? o.get xs := by
        rw [Setting.refused?_cons, hx, Option.none_or]
      have hrest := hf a ha
      show o.Checks (x :: xs) (f a) Q
      cases hfa : f a with
      | ok b =>
          rw [hfa] at hrest
          exact ⟨hxs.trans hrest.1, hrest.2⟩
      | error e =>
          rw [hfa] at hrest
          obtain ⟨y, hy, hreport⟩ := hrest
          exact ⟨y, hxs.trans hy, hreport⟩

/-! ### The single checks -/

theorem Checks.accepted {x : Setting} {a : α} {P : α → Prop}
    (h : x.accepts (o.get x) = true) (ha : P a) : o.Checks [x] (.ok a) P :=
  ⟨by simp [Setting.refused?, h], ha⟩

theorem Checks.refused {x : Setting} {e : ConfigError} {P : α → Prop}
    (h : x.accepts (o.get x) = false) (he : x.refusal (o.get x) = e) :
    o.Checks [x] (.error e.report) P :=
  ⟨x, by simp [Setting.refused?, h], by rw [he]⟩

theorem checks_preset (o : Options) :
    o.Checks [.preset] (Preset.ofValue o.preset) fun p => p.isMeantBy o.preset = true := by
  cases h : Preset.ofValue o.preset with
  | ok p =>
      have hp : p.isMeantBy o.preset = true := Preset.ofValue_eq_ok_iff.mp h
      exact .accepted (List.any_eq_true.mpr ⟨p, p.mem_all, hp⟩) hp
  | error failure =>
      obtain rfl := Preset.eq_report_of_ofValue h
      refine .refused (List.any_eq_false.mpr fun p _ hp => ?_) rfl
      cases h.symm.trans (Preset.ofValue_eq_ok_iff.mpr hp)

theorem checks_flag (o : Options) {x : Setting} (hx : x.isFlag = true) (default : Bool) :
    o.Checks [x] (o.flag x default) fun b => Value.bool b = settled (o.get x) (.bool default) := by
  have haccepts := Setting.accepts_flag hx (o.get x)
  rw [flag]
  cases h : o.get x with
  | null => exact .accepted (by rw [haccepts, h]) rfl
  | bool b => exact .accepted (by rw [haccepts, h]) rfl
  | _ => exact .refused (by rw [haccepts, h]) (by rw [Setting.refusal_flag hx, h])

theorem checks_level (o : Options) (default : Nat) :
    o.Checks [.maxHeadingLevel] (o.level default)
      fun n => Value.int n = settled o.maxHeadingLevel (.int default) := by
  rw [level]
  cases h : o.maxHeadingLevel with
  | null => exact .accepted (by rw [get, h]; rfl) rfl
  | int n =>
      dsimp only
      by_cases hn : 1 ≤ n ∧ n ≤ 6
      · rw [if_pos hn]
        refine .accepted (by simpa [get, h, Setting.accepts] using hn) ?_
        exact congrArg Value.int (Int.toNat_of_nonneg (by omega))
      · rw [if_neg hn]
        exact .refused (by simpa [get, h, Setting.accepts] using hn) (by rw [get, h]; rfl)
  | _ => exact .refused (by rw [get, h]; rfl) (by rw [get, h]; rfl)

theorem checks_language (o : Options) (default : String) :
    o.Checks [.defaultCodeLanguage] (o.language default)
      fun s => Value.str s = settled o.defaultCodeLanguage (.str default) := by
  rw [language]
  cases h : o.defaultCodeLanguage with
  | null => exact .accepted (by rw [get, h]; rfl) rfl
  | str s => exact .accepted (by rw [get, h]; rfl) rfl
  | _ => exact .refused (by rw [get, h]; rfl) (by rw [get, h]; rfl)

theorem checks_resolve (o : Options) :
    o.Checks Setting.checkOrder o.resolve fun p => p.SettledBy o.get := by
  refine o.checks_preset.bind fun preset hpreset => ?_
  refine (o.checks_flag rfl _).bind fun useHeadings h1 => ?_
  refine (o.checks_flag rfl _).bind fun preserveLineBreaks h2 => ?_
  refine (o.checks_flag rfl _).bind fun strictMode h3 => ?_
  refine (o.checks_flag rfl _).bind fun warnOnRiskyNodes h4 => ?_
  refine (o.checks_level _).bind fun maxHeadingLevel hlevel => ?_
  refine (o.checks_language _).bind fun defaultCodeLanguage hlanguage => ?_
  refine ⟨rfl, hpreset, fun x hx => ?_⟩
  cases x with
  | preset => exact absurd rfl hx
  | useHeadings => exact h1
  | maxHeadingLevel => exact hlevel
  | preserveLineBreaks => exact h2
  | strictMode => exact h3
  | defaultCodeLanguage => exact hlanguage
  | warnOnRiskyNodes => exact h4

end Options

namespace OptionSource

/-- The keys of the mapping that is given. -/
def keys : OptionSource → List Value
  | .value (.map entries) => entries.map (·.1)
  | _ => []

/-- The value that is given for a setting, null when none is. -/
def given : OptionSource → Setting → Value
  | .record o, x => o.get x
  | .value (.map entries), x => (x.lastIn? entries).getD .null
  | .value _, _ => .null

/-- Whether options are given, or nothing at all. -/
def isOptions : OptionSource → Bool
  | .record _ | .value .null | .value (.map _) => true
  | .value _ => false

/-- What is at fault first, as errors name it: nothing in particular when no options are given, a
key that is not known, or a setting. -/
def firstFault? (s : OptionSource) : Option Value :=
  if s.isOptions then
    (s.keys.find? fun k => !Setting.isKnown k).or
      ((Setting.refused? s.given Setting.checkOrder).map fun x => .str x.name)
  else some .null

/-- The error of an argument that is no options at all. -/
def typeError? : OptionSource → Option ConfigError
  | .record _ | .value .null | .value (.map _) => none
  | .value v => some (.notOptions v.typeName)

/-- The error of the first fault. -/
def firstError? (s : OptionSource) : Option ConfigError :=
  s.typeError?.or (((s.keys.find? fun k => !Setting.isKnown k).map .unknownOption).or
    ((Setting.refused? s.given Setting.checkOrder).map fun x => x.refusal (s.given x)))

/-- What the error of the first fault shows: the key that is not known, or a part of the value that
its setting does not accept. -/
def firstShown? (s : OptionSource) : Option Value :=
  if s.isOptions then
    (s.keys.find? fun k => !Setting.isKnown k).or
      ((Setting.refused? s.given Setting.checkOrder).bind fun x => x.shown? (s.given x))
  else none

theorem typeError?_of_isOptions {s : OptionSource} (h : s.isOptions = true) :
    s.typeError? = none := by
  cases s with
  | record o => rfl
  | value v => cases v <;> first | rfl | cases h

/-- The error of the first fault names it. -/
theorem map_field_firstError? (s : OptionSource) :
    s.firstError?.map ConfigError.field = s.firstFault? := by
  have hrefused : (Setting.refused? s.given Setting.checkOrder).map
      (ConfigError.field ∘ fun x => x.refusal (s.given x)) =
        (Setting.refused? s.given Setting.checkOrder).map fun x => .str x.name :=
    congrArg (Option.map · _) (funext fun x => Setting.field_refusal x _)
  cases hs : s.isOptions with
  | true =>
      have hkeys : (s.keys.find? fun k => !Setting.isKnown k).map
          (ConfigError.field ∘ .unknownOption) = s.keys.find? fun k => !Setting.isKnown k :=
        Option.map_id_fun' ▸ rfl
      rw [firstError?, typeError?_of_isOptions hs, Option.none_or, Option.map_or, Option.map_map,
        Option.map_map, hkeys, hrefused, firstFault?, if_pos hs]
  | false =>
      cases s with
      | record o => cases hs
      | value v => cases v <;> first | rfl | cases hs

/-- The error of the first fault cannot be put into words if what it shows cannot be shown. -/
theorem isShowable_firstError?_eq_false_iff {s : OptionSource} {e : ConfigError}
    (h : s.firstError? = some e) :
    e.isShowable = false ↔ ∃ v ∈ s.firstShown?, v.isShowable = false := by
  cases hs : s.isOptions with
  | true =>
      rw [firstError?, typeError?_of_isOptions hs, Option.none_or] at h
      rw [firstShown?, if_pos hs]
      cases hkey : s.keys.find? fun k => !Setting.isKnown k with
      | some k =>
          obtain rfl : ConfigError.unknownOption k = e := by simpa [hkey] using h
          simp [ConfigError.isShowable]
      | none =>
          obtain ⟨x, hx, rfl⟩ : ∃ x, Setting.refused? s.given Setting.checkOrder = some x ∧
              x.refusal (s.given x) = e := by simpa [hkey] using h
          rw [hx, Option.none_or, Option.bind_some]
          exact Setting.isShowable_refusal_eq_false_iff
  | false =>
      obtain ⟨type, rfl⟩ : ∃ type, ConfigError.notOptions type = e := by
        cases s with
        | record o => cases hs
        | value v => cases v <;> first | exact ⟨_, Option.some.inj h⟩ | cases hs
      simp [firstShown?, hs, ConfigError.isShowable]

theorem options_spec (s : OptionSource) :
    match s.options with
    | .ok o => s.isOptions = true ∧ (s.keys.find? fun k => !Setting.isKnown k) = none ∧
        o.get = s.given
    | .error failure => ∃ e, s.firstError? = some e ∧ failure = e.report := by
  cases s with
  | record o => exact ⟨rfl, rfl, rfl⟩
  | value v =>
      cases v with
      | null => exact ⟨rfl, rfl, funext fun x => by cases x <;> rfl⟩
      | map entries =>
          have hmapping := Options.ofMapping_spec entries
          rw [options]
          cases hread : Options.ofMapping entries with
          | ok o =>
              rw [hread] at hmapping
              exact ⟨rfl, hmapping.1, funext hmapping.2⟩
          | error failure =>
              rw [hread] at hmapping
              obtain ⟨k, hk, rfl⟩ := hmapping
              rw [Options.unknownKey?] at hk
              exact ⟨.unknownOption k, by simp [firstError?, typeError?, keys, hk], rfl⟩
      | _ => exact ⟨_, rfl, rfl⟩

theorem firstFault?_eq_none_iff {s : OptionSource} :
    s.firstFault? = none ↔ s.isOptions = true ∧ (∀ k ∈ s.keys, Setting.isKnown k = true) ∧
      ∀ x : Setting, x.accepts (s.given x) = true := by
  rw [← Setting.refused?_checkOrder_eq_none_iff, firstFault?]
  cases s.isOptions <;> simp [List.find?_eq_none]

theorem firstShown?_of_firstError? {s : OptionSource} (h : s.firstError? = none) :
    s.firstShown? = none := by
  rw [firstError?, Option.or_eq_none_iff, Option.or_eq_none_iff, Option.map_eq_none_iff,
    Option.map_eq_none_iff] at h
  rw [firstShown?, h.2.1, h.2.2]
  split <;> rfl

theorem resolve_outcome (s : OptionSource) :
    match s.resolve with
    | .ok p => s.firstError? = none ∧ p.SettledBy s.given
    | .error failure => ∃ e, s.firstError? = some e ∧ failure = e.report := by
  have hsource := s.options_spec
  rw [resolve]
  cases hoptions : s.options with
  | error failure =>
      rw [hoptions] at hsource
      exact hsource
  | ok o =>
      rw [hoptions] at hsource
      obtain ⟨hisOptions, hkeys, hget⟩ := hsource
      have hfirst : s.firstError? =
          (Setting.refused? o.get Setting.checkOrder).map fun x => x.refusal (o.get x) := by
        rw [firstError?, typeError?_of_isOptions hisOptions, hkeys, Option.none_or, Option.map_none,
          Option.none_or, hget]
      have hchecks := o.checks_resolve
      show match o.resolve with
        | .ok p => s.firstError? = none ∧ p.SettledBy s.given
        | .error failure => ∃ e, s.firstError? = some e ∧ failure = e.report
      cases hresolve : o.resolve with
      | ok p =>
          rw [hresolve] at hchecks
          exact ⟨by rw [hfirst, hchecks.1, Option.map_none], hget ▸ hchecks.2⟩
      | error failure =>
          rw [hresolve] at hchecks
          obtain ⟨x, hx, hreport⟩ := hchecks
          exact ⟨_, by rw [hfirst, hx, Option.map_some], hreport⟩

/-- Options resolve exactly when there are options, every key is known and every setting accepts its
value. The profile has the values that are given and, where none is, those of the preset. Otherwise
the first fault is reported by its error, which names it, unless the message of the error would have
to show a value that cannot be shown: exactly then another failure takes its place. -/
theorem resolve_spec (s : OptionSource) :
    ((∃ p, s.resolve = .ok p) ↔ s.isOptions = true ∧ (∀ k ∈ s.keys, Setting.isKnown k = true) ∧
      ∀ x : Setting, x.accepts (s.given x) = true) ∧
    (∀ p, s.resolve = .ok p → p.preset.isMeantBy (s.given .preset) = true ∧
      ∀ x, x ≠ .preset →
        p.get x = if s.given x = .null then p.preset.profile.get x else s.given x) ∧
    (∀ e, s.resolve = .error (.config e) ↔
      s.firstError? = some e ∧ ∀ v ∈ s.firstShown?, v.isShowable = true) ∧
    (s.resolve = .error .longNumber ↔ ∃ v ∈ s.firstShown?, v.isShowable = false) ∧
    s.firstError?.map ConfigError.field = s.firstFault? := by
  have houtcome := s.resolve_outcome
  have hfields := s.map_field_firstError?
  have hnone : s.firstError? = none ↔ s.firstFault? = none := by
    rw [← hfields, Option.map_eq_none_iff]
  rw [← firstFault?_eq_none_iff, ← hnone]
  cases hresolve : s.resolve with
  | ok p =>
      rw [hresolve] at houtcome
      obtain ⟨hfirst, hsettled⟩ := houtcome
      have hshown : s.firstShown? = none := firstShown?_of_firstError? hfirst
      refine ⟨⟨fun _ => hfirst, fun _ => ⟨p, rfl⟩⟩, fun q hq => ?_, fun e => ?_, ?_, hfields⟩
      · obtain rfl := Except.ok.inj hq
        exact ⟨hsettled.preset, hsettled.values⟩
      · simp [hfirst]
      · simp [hshown]
  | error failure =>
      rw [hresolve] at houtcome
      obtain ⟨e, hfirst, rfl⟩ := houtcome
      have hshown := isShowable_firstError?_eq_false_iff hfirst
      refine ⟨?_, nofun, fun e' => ?_, ?_, hfields⟩
      · simp [hfirst]
      · have hshort : e.isShowable = true ↔ ∀ v ∈ s.firstShown?, v.isShowable = true := by
          simpa using not_congr hshown
        simp only [hfirst, Except.error.injEq, ConfigError.report_eq_config_iff, Option.some.injEq,
          hshort]
      · simpa using hshown

/-- Of two spellings the later one counts, and a flag that is null is left to the preset; of two
faults the one that is checked first is reported. -/
theorem resolve_bothSpellings :
    let sound := value (.map [(.str "strictMode", .int 1), (.str "preset", .str " Comment\n"),
      (.str "warnOnRiskyNodes", .null), (.str "strict_mode", .bool false)])
    let faulty := value (.map [(.str "maxHeadingLevel", .int 7), (.str "strict_mode", .bool false),
      (.str "strictMode", .str "")])
    (∃ p, sound.resolve = .ok p ∧ p.preset.isMeantBy (.str " Comment\n") = true ∧
      p.get .strictMode = .bool false ∧
      p.get .warnOnRiskyNodes = p.preset.profile.get .warnOnRiskyNodes) ∧
    ∃ e, faulty.resolve = .error (.config e) ∧ e.field = .str "strict_mode" := by
  intro sound faulty
  constructor
  · obtain ⟨p, hp⟩ := (resolve_spec sound).1.mpr ⟨rfl, by decide, fun x => by cases x <;> rfl⟩
    obtain ⟨hpreset, hvalues⟩ := (resolve_spec sound).2.1 p hp
    exact ⟨p, hp, hpreset, hvalues .strictMode (by decide), hvalues .warnOnRiskyNodes (by decide)⟩
  · have hfirst : faulty.firstError? = some (.notBoolean .strictMode "str") := by decide
    have hshown : faulty.firstShown? = none := by decide
    exact ⟨_, ((resolve_spec faulty).2.2.1 _).mpr ⟨hfirst, by simp [hshown]⟩, rfl⟩

/-- A heading level that is too long to be shown is no level, and no error says so. -/
theorem resolve_of_longLevel {n : Int} (hn : (Value.int n).isShowable = false) :
    let s := value (.map [(.str "max_heading_level", .int n)])
    s.firstError? = some (.levelOutOfRange n) ∧ s.resolve = .error .longNumber := by
  intro s
  have hlevel : ¬ (1 ≤ n ∧ n ≤ 6) := by
    intro hrange
    have hshort : n.natAbs < Nat.pow 10 Text.maxDigits :=
      Nat.lt_trans (by omega : n.natAbs < 10) (by decide +kernel)
    cases hn.symm.trans (Value.isShowable_int_iff.mpr hshort)
  have hfirst : s.firstError? = some (.levelOutOfRange n) := by
    have haccepts : Setting.maxHeadingLevel.accepts (.int n) = false := by
      simpa [Setting.accepts] using hlevel
    have hrefused : Setting.refused? s.given Setting.checkOrder = some .maxHeadingLevel := by
      refine List.find?_eq_some_iff_append.mpr ⟨?_, [.preset, .useHeadings, .preserveLineBreaks,
        .strictMode, .warnOnRiskyNodes], [.defaultCodeLanguage], rfl, ?_⟩
      · exact congrArg not haccepts
      · intro x hx
        have hgiven : s.given x = .null := by
          cases x with
          | maxHeadingLevel | defaultCodeLanguage => simp at hx
          | _ => rfl
        rw [hgiven]
        cases x <;> rfl
    have hkeys : (s.keys.find? fun k => !Setting.isKnown k) = none := rfl
    rw [firstError?, typeError?_of_isOptions rfl, hkeys, hrefused]
    rfl
  refine ⟨hfirst, ?_⟩
  have houtcome := s.resolve_outcome
  cases hresolve : s.resolve with
  | ok p =>
      rw [hresolve, hfirst] at houtcome
      cases houtcome.1
  | error failure =>
      rw [hresolve, hfirst] at houtcome
      obtain ⟨e, he, rfl⟩ := houtcome
      obtain rfl := Option.some.inj he
      exact congrArg Except.error (ConfigError.report_eq_longNumber_iff.mpr hn)

/-- A heading level of five thousand digits is no level, and there is no error that says so. -/
theorem resolve_longLevel :
    let s := value (.map [(.str "max_heading_level", .int (Nat.pow 10 5000))])
    s.isOptions = true ∧ (∀ k ∈ s.keys, Setting.isKnown k = true) ∧
      s.firstFault? = some (.str "max_heading_level") ∧ s.resolve = .error .longNumber ∧
      ∀ e, s.resolve ≠ .error (.config e) := by
  intro s
  have hlong : (Value.int (Nat.pow 10 5000)).isShowable = false := by
    refine Bool.eq_false_iff.mpr fun hshort => ?_
    exact absurd (Value.isShowable_int_iff.mp hshort) (by decide +kernel)
  obtain ⟨hfirst, hresolve⟩ := resolve_of_longLevel hlong
  refine ⟨rfl, by decide, ?_, hresolve, fun e he => ?_⟩
  · rw [← map_field_firstError?, hfirst]
    rfl
  · cases hresolve.symm.trans he

end OptionSource

end MarkdownAdf
