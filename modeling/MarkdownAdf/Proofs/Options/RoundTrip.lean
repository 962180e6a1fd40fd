import MarkdownAdf.Files.Options
import MarkdownAdf.Proofs.Files.Tree
import MarkdownAdf.Proofs.Options.Mapping
import MarkdownAdf.Proofs.Yaml.Writing

/-!
# Written options mean the same

Options are written as a mapping of the settings that are set. The mapping resolves to what the
options resolve to, with the same error if there is one, and a file to which they were saved loads
as options that do so too, provided that the document reads back as the mapping.
-/

namespace MarkdownAdf

/-! ### Bytes of a text -/

theorem toList_loop_eq (bytes : ByteArray) (i : Nat) (read : Bytes) :
    ByteArray.toList.loop bytes i read = read.reverse ++ bytes.data.toList.drop i := by
  fun_induction ByteArray.toList.loop bytes i read with
  | case1 i read hi ih =>
      have hlength : i < bytes.data.toList.length := by simpa using hi
      have hget : bytes.get! i = bytes.data.toList[i] := by simp [ByteArray.get!, hi]
      rw [ih, List.drop_eq_getElem_cons hlength, hget, List.reverse_cons, List.append_assoc,
        List.singleton_append]
  | case2 i read hi =>
      have hlength : bytes.data.toList.length ≤ i := by simpa using Nat.le_of_not_lt hi
      rw [List.drop_eq_nil_of_le hlength, List.append_nil]

/-- A text is decoded from its bytes. -/
theorem fromUTF8?_toUTF8 (text : String) :
    String.fromUTF8? ⟨text.toUTF8.toList.toArray⟩ = some text := by
  have hbytes : (⟨text.toUTF8.toList.toArray⟩ : ByteArray) = text.toUTF8 := by
    rw [ByteArray.toList, toList_loop_eq]
    rfl
  rw [hbytes]
  exact dif_pos text.isValidUTF8

theorem Setting.isNamedBy_name (x y : Setting) : x.isNamedBy (.str y.name) = decide (y = x) := by
  by_cases h : y = x
  · subst h
    simp [isNamedBy]
  · rw [decide_eq_false h]
    refine eq_false_of_ne_true fun hnamed => h ?_
    exact Option.some.inj ((ofKey?_name y).symm.trans (ofKey?_eq_some_iff.mpr hnamed))

theorem Preset.ofValue_written (v : Value) : ofValue (Options.written v) = ofValue v := by
  cases v with
  | preset p =>
      have hname : Text.lowerWord (Text.trim p.name) = p.name := by cases p <;> decide
      simp [Options.written, ofValue, hname]
  | _ => rfl

namespace Options

/-- Whether no setting but the preset holds a preset. -/
def IsPlain (o : Options) : Prop := ∀ x, x ≠ .preset → ∀ p, o.get x ≠ .preset p

/-- The options with the name of the preset in the place of the preset. -/
def named (o : Options) : Options := { o with preset := written o.preset }

theorem resolve_named (o : Options) : o.named.resolve = o.resolve := by
  rw [resolve, resolve, named, Preset.ofValue_written]
  rfl

theorem get_named {o : Options} (h : o.IsPlain) (x : Setting) :
    o.named.get x = written (o.get x) := by
  by_cases hx : x = .preset
  · subst hx
    rfl
  · have hget : o.named.get x = o.get x := by cases x <;> first | rfl | exact absurd rfl hx
    rw [hget]
    cases hv : o.get x with
    | preset p => exact absurd hv (h x hx p)
    | _ => rfl

/-! ### The mapping -/

/-- The entry of a setting that is set is the one that counts for it. -/
theorem lastIn?_entries (o : Options) (x : Setting) (xs : List Setting) :
    x.lastIn? ((xs.filter fun y => o.get y ≠ .null).map fun y => (.str y.name, written (o.get y))) =
      if x ∈ xs ∧ o.get x ≠ .null then some (written (o.get x)) else none := by
  induction xs with
  | nil => rfl
  | cons y xs ih =>
      by_cases hy : o.get y = .null
      · have hmem : x ∈ y :: xs ∧ o.get x ≠ .null ↔ x ∈ xs ∧ o.get x ≠ .null := by
          constructor
          · rintro ⟨hx, hset⟩
            rcases List.mem_cons.mp hx with rfl | hx
            · exact absurd hy hset
            · exact ⟨hx, hset⟩
          · exact fun ⟨hx, hset⟩ => ⟨List.mem_cons_of_mem y hx, hset⟩
        rw [List.filter_cons_of_neg (by simpa using hy), ih]
        simp only [hmem]
      · rw [List.filter_cons_of_pos (by simpa using hy), List.map_cons, Setting.lastIn?_cons, ih,
          Setting.isNamedBy_name]
        by_cases hxy : y = x
        · subst hxy
          by_cases hmem : y ∈ xs <;> simp [hy, hmem]
        · simp [hxy, Ne.symm hxy]

theorem ofMapping_toMapping {o : Options} (h : o.IsPlain) :
    ofMapping o.toMapping = .ok o.named := by
  have hmapping := ofMapping_spec o.toMapping
  cases hread : ofMapping o.toMapping with
  | error e =>
      rw [hread] at hmapping
      obtain ⟨k, hk, -⟩ := hmapping
      obtain ⟨e, he, rfl⟩ := List.mem_map.mp (List.mem_of_find?_eq_some hk)
      obtain ⟨x, -, rfl⟩ := List.mem_map.mp he
      have hknown : Setting.isKnown (.str x.name) = true :=
        Setting.isKnown_iff.mpr ⟨x, Setting.ofKey?_name x⟩
      simpa [hknown] using List.find?_some hk
  | ok p =>
      rw [hread] at hmapping
      refine congrArg Except.ok (ext_get fun x => ?_)
      rw [hmapping.2 x, toMapping, lastIn?_entries, get_named h]
      by_cases hx : o.get x = .null
      · rw [if_neg fun hset => hset.2 hx, hx]
        rfl
      · rw [if_pos ⟨x.mem_all, hx⟩, Option.getD_some]

theorem written_eq_null_iff {v : Value} : written v = .null ↔ v = .null := by
  cases v <;> simp [written]

/-- The preset is written in the same way by its name. -/
theorem toMapping_named {o : Options} (h : o.IsPlain) : o.named.toMapping = o.toMapping := by
  have hwritten (v : Value) : written (written v) = written v := by cases v <;> rfl
  simp only [toMapping, get_named h, hwritten, ne_eq, written_eq_null_iff]

/-! ### Files -/

/-- Saving that succeeds writes a text, which options have only if they can be shown. -/
theorem save_eq_ok_iff {s t : Files.Tree} {refusals : Files.Refusals} {path : String}
    {o : Options} :
    save s refusals path o = (t, .ok ()) ↔ (Value.map o.toMapping).isShowable = true ∧
      saveText s refusals path o.toText.toUTF8.toList = (t, .ok ()) := by
  rw [save]
  split <;> simp [*]

/-- A text that was saved can be read from the file. -/
theorem contentAt_of_saveText {s t : Files.Tree} {refusals : Files.Refusals} {path : String}
    {content : Bytes} (h : saveText s refusals path content = (t, .ok ())) :
    t.contentAt path = .ok content := by
  rw [saveText] at h
  generalize saveDirectory s refusals path = directory at h
  obtain ⟨u, made⟩ := directory
  cases made with
  | error e => cases h
  | ok _ =>
      dsimp only at h
      cases hstore : Files.unlessRefused refusals.opening (u.store path content) with
      | error e =>
          simp only [hstore] at h
          cases h
      | ok v =>
          simp only [hstore] at h
          obtain ⟨rfl, -⟩ := Prod.mk.inj h
          exact Files.Tree.contentAt_of_store (Files.unlessRefused_eq_ok_iff.mp hstore).2

theorem ofBytes_toText {o : Options} (h : o.IsPlain)
    (hread : Yaml.read o.toText.toList = .ok (.map o.toMapping)) :
    ofBytes o.toText.toUTF8.toList = .ok (.map o.toMapping, o.named) := by
  have hlines : Text.unifyLineEnds o.toText.toList = o.toText.toList :=
    Yaml.unifyLineEnds_write (.map o.toMapping)
  have hdocument : ofDocument (.map o.toMapping) = .ok o.named := ofMapping_toMapping h
  rw [ofBytes, fromUTF8?_toUTF8]
  simp only [hlines, hread]
  show ((ofDocument (.map o.toMapping)).mapError FileFailure.options >>= fun p => pure (_, p)) = _
  rw [hdocument]
  rfl

/-- The mapping that options are written as resolves as the options do and reads back as the options
with the preset by its name. So do the options in a file to which they were saved, if the text of
the file reads as the mapping. -/
theorem resolve_toMapping (o : Options) (h : o.IsPlain) :
    (OptionSource.value (.map o.toMapping)).resolve = (OptionSource.record o).resolve ∧
    ofMapping o.toMapping = .ok o.named ∧
    ∀ (s t : Files.Tree) (refusals : Files.Refusals) (path : String),
      save s refusals path o = (t, .ok ()) →
      Yaml.read o.toText.toList = .ok (.map o.toMapping) →
      ∃ p, (load t {} path).result = .ok p ∧
        (OptionSource.record p).resolve = (OptionSource.record o).resolve := by
  have hmapping := ofMapping_toMapping h
  refine ⟨?_, hmapping, fun s t refusals path hsave hread => ⟨o.named, ?_, o.resolve_named⟩⟩
  · show (ofMapping o.toMapping >>= resolve) = o.resolve
    rw [hmapping]
    exact o.resolve_named
  · obtain ⟨hshowable, hsaved⟩ := save_eq_ok_iff.mp hsave
    simp only [load, contentAt_of_saveText hsaved, Files.unlessRefused, ofBytes_toText h hread,
      noteLoaded, toMapping_named h, hshowable, reduceCtorEq, if_false, if_true]

theorem eq_ok_of_toOption {ε α : Type} {result : Except ε α} {a : α}
    (h : result.toOption = some a) : result = .ok a := by
  cases result with
  | error e => cases h
  | ok b => exact congrArg Except.ok (Option.some.inj h)

/-- The document of two settings reads as their mapping. -/
theorem read_twoSettings :
    Yaml.read "preset: comment\nstrict_mode: false\n".toList =
      .ok (.map [(.str "preset", .str "comment"), (.str "strict_mode", .bool false)]) := by
  have htokens : Yaml.Token.ofText "preset: comment\nstrict_mode: false\n".toList =
      .ok [.blockMappingStart, .key, .scalar "preset" true, .value, .scalar "comment" true, .key,
        .scalar "strict_mode" true, .value, .scalar "false" true, .blockEnd, .streamEnd] :=
    eq_ok_of_toOption (by decide +kernel)
  rw [Yaml.read, htokens]
  exact eq_ok_of_toOption (by decide +kernel)

/-- A preset and a flag that are saved to a new directory load with the meaning that they had. -/
theorem load_saved_twoSettings :
    let o : Options := { preset := .preset .comment, strictMode := .bool false }
    o.IsPlain ∧ Yaml.read o.toText.toList = .ok (.map o.toMapping) ∧
      ∃ t p, save {} {} "conf/adf.yml" o = (t, .ok ()) ∧
        (load t {} "conf/adf.yml").result = .ok p ∧
        (OptionSource.record p).resolve = (OptionSource.record o).resolve := by
  intro o
  have hplain : o.IsPlain := fun x hx p => by cases x <;> first | exact absurd rfl hx | nofun
  have htext : o.toText = "preset: comment\nstrict_mode: false\n" := by decide +kernel
  have hread : Yaml.read o.toText.toList = .ok (.map o.toMapping) := htext ▸ read_twoSettings
  have hsave : (save {} {} "conf/adf.yml" o).2 = .ok () :=
    eq_ok_of_toOption (by decide +kernel)
  obtain ⟨p, hload, hresolve⟩ := (resolve_toMapping o hplain).2.2 {} _ {} "conf/adf.yml"
    (Prod.ext rfl hsave) hread
  exact ⟨hplain, hread, _, p, Prod.ext rfl hsave, hload, hresolve⟩

end Options

end MarkdownAdf
