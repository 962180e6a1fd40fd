import MarkdownAdf.Proofs.Environment.Flag
import MarkdownAdf.Proofs.Text.Digit

/-!
# Options that variables write

Options come from exactly the environments whose variables write them, with any spelling of a flag,
any literal of the level and any blanks around. Otherwise the first setting whose variable writes no
value is at fault.
-/

namespace MarkdownAdf

/-- The texts that write a value of a setting. -/
inductive Setting.Writes (x : Setting) (text : String) : Value → Prop where
  | flag {b} (hx : x.isFlag = true) (h : Environment.SpellsFlag text b) : x.Writes text (.bool b)
  | level {n} (hx : x = .maxHeadingLevel) (h : Text.IsIntegerLiteral text.toList n) :
      x.Writes text (.int n)
  | text (hx : x = .preset ∨ x = .defaultCodeLanguage) : x.Writes text (.str text)

/-- Whether a text that is not blank writes no value of a setting. -/
def Setting.Refuses (x : Setting) (text : String) : Prop :=
  (x.isFlag = true ∧ ∀ b, ¬ Environment.SpellsFlag text b) ∨
    (x = .maxHeadingLevel ∧ ∀ n, ¬ Text.IsIntegerLiteral text.toList n)

theorem Setting.refuses_iff {x : Setting} {text : String} :
    x.Refuses text ↔ ∀ v, ¬ x.Writes text v := by
  constructor
  · rintro (⟨hflag, hspells⟩ | ⟨rfl, hliteral⟩) v h
    · cases h with
      | flag hx h => exact hspells _ h
      | level hx => subst hx; cases hflag
      | text hx => rcases hx with rfl | rfl <;> cases hflag
    · cases h with
      | flag hx => cases hx
      | level hx h => exact hliteral _ h
      | text hx => rcases hx with hx | hx <;> cases hx
  · intro h
    by_cases hflag : x.isFlag = true
    · exact .inl ⟨hflag, fun b hspells => h _ (.flag hflag hspells)⟩
    · by_cases hlevel : x = .maxHeadingLevel
      · exact .inr ⟨hlevel, fun n hliteral => h _ (.level hlevel hliteral)⟩
      · refine absurd (.text ?_) (h (.str text))
        cases x <;> first | exact .inl rfl | exact .inr rfl | contradiction

namespace Environment

variable {env : Environment} {x : Setting} {text : String} {v : Value} {e : ConfigError}

/-! ### Texts of variables -/

/-- Whether the variable of a setting holds a text with blanks around it. -/
def Gives (env : Environment) (x : Setting) (text : String) : Prop :=
  Text.IsStripped Text.isBlank text.toList ∧
    ∃ before after : String, env.lookup x.variable = some (before ++ text ++ after) ∧
      Text.isBlankText before = true ∧ Text.isBlankText after = true

/-- Whether the variable of a setting is missing or blank. -/
def Lacks (env : Environment) (x : Setting) : Prop :=
  ∀ raw, env.lookup x.variable = some raw → Text.isBlankText raw = true

/-- The value that an environment gives a setting, null where it gives none. -/
def value (env : Environment) (x : Setting) : Except ConfigError Value :=
  match env.lookup x.variable with
  | none => .ok .null
  | some raw => if Text.isBlankText raw then .ok .null else readSetting x (Text.trim raw)

theorem value_of_lacks (h : env.Lacks x) : env.value x = .ok .null := by
  rw [value]
  split
  · rfl
  · next raw hraw => rw [if_pos (h raw hraw)]

theorem value_of_gives (h : env.Gives x text) : env.value x = readSetting x text := by
  obtain ⟨htext, before, after, hlookup, hbefore, hafter⟩ := h
  have hraw : (before ++ text ++ after).toList = before.toList ++ text.toList ++ after.toList := by
    simp
  rw [Text.isBlankText, List.all_eq_true] at hbefore hafter
  have htrim : Text.trim (before ++ text ++ after) = text := by
    rw [Text.trim, hraw, Text.stripList_append hbefore hafter htext, String.ofList_toList]
  have hblank : Text.isBlankText (before ++ text ++ after) = false := by
    obtain ⟨c, rest, hrest⟩ := List.exists_cons_of_ne_nil htext.ne_nil
    have hc := htext.head c (by rw [hrest]; rfl)
    rw [Text.isBlankText, hraw, hrest]
    simp [hc]
  rw [value, hlookup]
  dsimp only
  rw [hblank, htrim]
  rfl

/-- A variable is missing or blank, or it holds a text. -/
theorem lacks_or_gives (env : Environment) (x : Setting) :
    env.Lacks x ∨ ∃ text, env.Gives x text := by
  cases hlookup : env.lookup x.variable with
  | none => exact .inl fun raw h => by rw [hlookup] at h; cases h
  | some raw =>
      by_cases hblank : Text.isBlankText raw = true
      · refine .inl fun other h => ?_
        rw [hlookup] at h
        exact Option.some.inj h ▸ hblank
      · have hne : ¬ ∀ c ∈ raw.toList, Text.isBlank c = true := by
          simpa [Text.isBlankText] using hblank
        obtain ⟨before, after, hraw, hbefore, hafter, hstripped⟩ := Text.exists_stripList hne
        refine .inr ⟨Text.trim raw, by rwa [Text.trim, String.toList_ofList],
          String.ofList before, String.ofList after, ?_, ?_, ?_⟩
        · rw [hlookup]
          refine congrArg some (String.toList_inj.mp ?_)
          simpa [Text.trim] using hraw
        · simpa [Text.isBlankText] using hbefore
        · simpa [Text.isBlankText] using hafter

/-! ### Values -/

/-- A text without blanks around it is read as the value that it writes. -/
theorem readSetting_eq_ok_iff (htext : Text.IsStripped Text.isBlank text.toList) :
    readSetting x text = .ok v ↔ x.Writes text v := by
  constructor
  · intro h
    rw [readSetting] at h
    by_cases hflag : x.isFlag = true
    · rw [if_pos hflag] at h
      cases hread : flag? text with
      | none => rw [hread] at h; cases h
      | some b =>
          rw [hread] at h
          obtain rfl := Except.ok.inj h
          exact .flag hflag (flag?_eq_some_iff.mp hread)
    · rw [if_neg hflag] at h
      by_cases hlevel : x = .maxHeadingLevel
      · rw [if_pos hlevel] at h
        cases hread : Text.readInteger? text with
        | none => rw [hread] at h; cases h
        | some n =>
            rw [hread] at h
            obtain rfl := Except.ok.inj h
            exact .level hlevel ((Text.readInteger?_eq_some_iff htext).mp hread)
      · rw [if_neg hlevel] at h
        obtain rfl := Except.ok.inj h
        refine .text ?_
        cases x <;> first | exact .inl rfl | exact .inr rfl | contradiction
  · intro h
    cases h with
    | flag hx h => rw [readSetting, if_pos hx, flag?_eq_some_iff.mpr h]
    | level hx h =>
        subst hx
        have hread := (Text.readInteger?_eq_some_iff htext).mpr h
        simp [readSetting, Setting.isFlag, hread]
    | text hx => rcases hx with rfl | rfl <;> rfl

/-- An error of a variable names the setting. -/
theorem field_of_readSetting (h : readSetting x text = .error e) : e.field = .str x.name := by
  rw [readSetting] at h
  split at h
  · split at h
    · cases h
    · exact Except.error.inj h ▸ rfl
  · split at h
    · split at h
      · cases h
      · exact Except.error.inj h ▸ rfl
    · cases h

/-- Whether the variable of a setting holds a text that writes no value. -/
def IsFaulty (env : Environment) (x : Setting) : Prop := ∃ text, env.Gives x text ∧ x.Refuses text

theorem value_eq_ok_iff :
    env.value x = .ok v ↔
      (v = .null ∧ env.Lacks x) ∨ ∃ text, env.Gives x text ∧ x.Writes text v := by
  constructor
  · intro h
    obtain hlacks | ⟨text, hgives⟩ := lacks_or_gives env x
    · rw [value_of_lacks hlacks] at h
      exact .inl ⟨(Except.ok.inj h).symm, hlacks⟩
    · rw [value_of_gives hgives] at h
      exact .inr ⟨text, hgives, (readSetting_eq_ok_iff hgives.1).mp h⟩
  · rintro (⟨rfl, hlacks⟩ | ⟨text, hgives, hwrites⟩)
    · exact value_of_lacks hlacks
    · rw [value_of_gives hgives]
      exact (readSetting_eq_ok_iff hgives.1).mpr hwrites

/-- A setting has no value exactly if its variable is at fault. -/
theorem isFaulty_iff : env.IsFaulty x ↔ ∃ e, env.value x = .error e := by
  constructor
  · rintro ⟨text, hgives, hrefuses⟩
    rw [value_of_gives hgives]
    cases hread : readSetting x text with
    | error e => exact ⟨e, rfl⟩
    | ok v =>
        exact absurd ((readSetting_eq_ok_iff hgives.1).mp hread) (Setting.refuses_iff.mp hrefuses v)
  · rintro ⟨e, h⟩
    obtain hlacks | ⟨text, hgives⟩ := lacks_or_gives env x
    · cases (value_of_lacks hlacks).symm.trans h
    · refine ⟨text, hgives, Setting.refuses_iff.mpr fun v hwrites => ?_⟩
      rw [value_of_gives hgives, (readSetting_eq_ok_iff hgives.1).mpr hwrites] at h
      cases h

theorem field_of_value (h : env.value x = .error e) : e.field = .str x.name := by
  rw [value] at h
  split at h
  · cases h
  · split at h
    · cases h
    · exact field_of_readSetting h

/-! ### All settings -/

theorem readSetting_ne_null (x : Setting) (text : String) : readSetting x text ≠ .ok .null := by
  rw [readSetting]
  split
  · split <;> nofun
  · split
    · split <;> nofun
    · nofun

/-- Options with a value for a setting, as they are if the value is null. -/
def assign (o : Options) (x : Setting) (v : Value) : Options := if v = .null then o else o.set x v

theorem get_assign_self (o : Options) (x : Setting) (v : Value) :
    (assign o x v).get x = if v = .null then o.get x else v := by
  rw [assign]
  split <;> simp

theorem get_assign_of_ne (o : Options) {x y : Setting} (v : Value) (h : y ≠ x) :
    (assign o x v).get y = o.get y := by
  rw [assign]
  split
  · rfl
  · exact Options.get_set_of_ne o v h.symm

theorem addSetting_eq (env : Environment) (o : Options) (x : Setting) :
    addSetting env o x = (env.value x).map (assign o x) := by
  rw [addSetting, value]
  cases env.lookup x.variable with
  | none => rfl
  | some raw =>
      dsimp only
      split
      · rfl
      · have hne := readSetting_ne_null x (Text.trim raw)
        cases hread : readSetting x (Text.trim raw) with
        | error e => rfl
        | ok v =>
            have hv : v ≠ .null := by rintro rfl; exact hne hread
            simp [Except.map, assign, hv]

/-- What reading settings comes to: each that has a value gets it, or the first one at fault ends
the reading. -/
inductive Reads (env : Environment) (xs : List Setting) (o : Options) :
    Except ConfigError Options → Prop where
  | all {p}
      (hread : ∀ x ∈ xs, ∃ v, env.value x = .ok v ∧ p.get x = if v = .null then o.get x else v)
      (hkept : ∀ x, x ∉ xs → p.get x = o.get x) : Reads env xs o (.ok p)
  | fault {before x after e} (hxs : xs = before ++ x :: after)
      (hbefore : ∀ y ∈ before, ∃ v, env.value y = .ok v) (hx : env.value x = .error e) :
      Reads env xs o (.error e)

theorem Reads.cons {xs : List Setting} {o : Options} {result : Except ConfigError Options}
    (hvalue : env.value x = .ok v) (h : Reads env xs (assign o x v) result) :
    Reads env (x :: xs) o result := by
  cases h with
  | all hread hkept =>
      refine .all (fun y hy => ?_) fun y hy => ?_
      · by_cases hyx : y = x
        · subst hyx
          refine ⟨v, hvalue, ?_⟩
          by_cases hmem : y ∈ xs
          · obtain ⟨w, hw, hget⟩ := hread y hmem
            obtain rfl := Except.ok.inj (hvalue.symm.trans hw)
            rw [hget, get_assign_self]
            split <;> rfl
          · rw [hkept y hmem, get_assign_self]
        · obtain ⟨w, hw, hget⟩ := hread y (List.mem_of_ne_of_mem hyx hy)
          exact ⟨w, hw, by rw [hget, get_assign_of_ne o v hyx]⟩
      · rw [List.mem_cons, not_or] at hy
        rw [hkept y hy.2, get_assign_of_ne o v hy.1]
  | fault hxs hbefore hz =>
      refine .fault (by rw [hxs, List.cons_append]) (fun y hy => ?_) hz
      rcases List.mem_cons.mp hy with rfl | hy
      · exact ⟨v, hvalue⟩
      · exact hbefore y hy

theorem reads_foldlM (env : Environment) (xs : List Setting) (o : Options) :
    Reads env xs o (xs.foldlM (addSetting env) o) := by
  induction xs generalizing o with
  | nil => exact .all nofun fun _ _ => rfl
  | cons x xs ih =>
      rw [List.foldlM_cons, addSetting_eq]
      cases hvalue : env.value x with
      | error e => exact .fault (List.nil_append (x :: xs)).symm nofun hvalue
      | ok v => exact (ih (assign o x v)).cons hvalue

/-- Whether the variables of an environment write options: each setting that is set is written by
its variable, and the variables of the others are missing or blank. -/
def Holds (env : Environment) (o : Options) : Prop :=
  ∀ x, (o.get x = .null ∧ env.Lacks x) ∨ ∃ text, env.Gives x text ∧ x.Writes text (o.get x)

theorem holds_iff {o : Options} : env.Holds o ↔ ∀ x, env.value x = .ok (o.get x) :=
  forall_congr' fun _ => value_eq_ok_iff.symm

/-- The options of an environment are those that it writes; without any, the first setting at fault
is reported. -/
theorem options_spec (env : Environment) :
    (∃ o, env.options = .ok o ∧ env.Holds o) ∨
      ∃ e before x after, env.options = .error e ∧ Setting.all = before ++ x :: after ∧
        (∀ y ∈ before, ¬ env.IsFaulty y) ∧ env.IsFaulty x ∧ e.field = .str x.name := by
  have hreads := reads_foldlM env Setting.all {}
  rw [options]
  generalize Setting.all.foldlM (addSetting env) {} = result at hreads
  cases hreads with
  | all hread hkept =>
      refine .inl ⟨_, rfl, holds_iff.mpr fun x => ?_⟩
      obtain ⟨v, hv, hget⟩ := hread x x.mem_all
      have hunset : Options.get {} x = .null := by cases x <;> rfl
      rw [hv, hget, hunset]
      split
      · next hnull => rw [hnull]
      · rfl
  | fault hxs hbefore hx =>
      refine .inr ⟨_, _, _, _, rfl, hxs, fun y hy hfaulty => ?_, isFaulty_iff.mpr ⟨_, hx⟩,
        field_of_value hx⟩
      obtain ⟨v, hv⟩ := hbefore y hy
      obtain ⟨e, he⟩ := isFaulty_iff.mp hfaulty
      cases hv.symm.trans he

/-- An environment that writes options has no variable at fault. -/
theorem Holds.not_isFaulty {o : Options} (h : env.Holds o) (x : Setting) : ¬ env.IsFaulty x := by
  intro hfaulty
  obtain ⟨e, he⟩ := isFaulty_iff.mp hfaulty
  cases (holds_iff.mp h x).symm.trans he

/-- The options of an environment are exactly those that its variables write, where the decimal form
of an integer is one of the ways to write it. There are none exactly if some variable is at fault,
and the error then names the first setting with such a variable. -/
theorem options_outcome (env : Environment) :
    (∀ o, env.options = .ok o ↔ env.Holds o) ∧
    (∀ n : Int, Text.IsIntegerLiteral (toString n).toList n) ∧
    ((∃ e, env.options = .error e) ↔ ∃ x, env.IsFaulty x) ∧
    ∀ e, env.options = .error e → ∃ before x after, Setting.all = before ++ x :: after ∧
      (∀ y ∈ before, ¬ env.IsFaulty y) ∧ env.IsFaulty x ∧ e.field = .str x.name := by
  refine ⟨fun o => ?_, Text.isIntegerLiteral_toString, ?_⟩
  · obtain ⟨p, hok, hholds⟩ | ⟨e, before, x, after, herror, -, -, hfaulty, -⟩ := options_spec env
    · rw [hok]
      constructor
      · rintro ⟨⟩
        exact hholds
      · intro h
        refine congrArg Except.ok (Options.ext_get fun x => ?_)
        exact Except.ok.inj ((holds_iff.mp hholds x).symm.trans (holds_iff.mp h x))
    · rw [herror]
      exact ⟨nofun, fun h => absurd hfaulty (h.not_isFaulty x)⟩
  · obtain ⟨p, hok, hholds⟩ | ⟨e, before, x, after, herror, hfirst⟩ := options_spec env
    · rw [hok]
      exact ⟨⟨nofun, fun ⟨x, hx⟩ => absurd hx (hholds.not_isFaulty x)⟩, nofun⟩
    · rw [herror]
      refine ⟨⟨fun _ => ⟨x, hfirst.2.2.1⟩, fun _ => ⟨e, rfl⟩⟩, ?_⟩
      rintro _ ⟨⟩
      exact ⟨before, x, after, hfirst⟩

/-- Padded variables in mixed spelling give the options that they write beside a blank one, and of
two variables at fault the one of the earlier setting is reported. -/
theorem options_mixedSpelling :
    let env : Environment := [("SHELL", "sh"), ("MD2ADF_STRICT_MODE", " TrUe\n"),
      ("MD2ADF_MAX_HEADING_LEVEL", "\t-18446744073709551617"), ("MD2ADF_PRESET", "\u00a0story "),
      ("MD2ADF_USE_HEADINGS", "  "), ("MD2ADF_WARN_ON_RISKY_NODES", "Off")]
    let o : Options :=
      { preset := .str "story", maxHeadingLevel := .int (-18446744073709551617),
        strictMode := .bool true, warnOnRiskyNodes := .bool false }
    let faulty : Environment := [("MD2ADF_STRICT_MODE", "maybe"),
      ("MD2ADF_MAX_HEADING_LEVEL", "three")]
    (env.Holds o ∧ env.options = .ok o) ∧
      ∃ e, faulty.options = .error e ∧ faulty.IsFaulty .maxHeadingLevel ∧
        e.field = .str Setting.maxHeadingLevel.name := by
  intro env o faulty
  have hholds : env.Holds o := holds_iff.mpr fun x => by cases x <;> rfl
  have herror : faulty.options =
      .error (.variableNotInteger "MD2ADF_MAX_HEADING_LEVEL" .maxHeadingLevel "three") := rfl
  obtain ⟨-, x, -, -, -, hfaulty, hfield⟩ := (options_outcome faulty).2.2.2 _ herror
  have hx : x = .maxHeadingLevel := by
    cases x <;> first | rfl | exact absurd hfield (by decide)
  exact ⟨⟨hholds, ((options_outcome env).1 o).mpr hholds⟩, _, herror, hx ▸ hfaulty, rfl⟩

end Environment

end MarkdownAdf
