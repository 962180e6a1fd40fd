import MarkdownAdf.Proofs.Options.RoundTrip

/-!
# How loading ends

Loading options from a file gives options, an error of the file system when the file cannot be
opened, or an error of configuration when its text is no option file. Other failures remain for a
path that no system can take, for bytes that are no text, for scalars whose tag does not fit them,
and for integers that are too long to be shown where loading shows them.
-/

namespace MarkdownAdf

/-- Whether a failure is one of the errors that this library reports. -/
def FileFailure.isReported : FileFailure → Bool
  | .filesystem _ | .options (.config _) => true
  | .options .longNumber | .notText | .unreadableScalar _ | .unusablePath => false

namespace Options

/-- What opening a file for reading gives. -/
def opened (s : Files.Tree) (refusals : Files.Refusals) (path : String) :
    Except Files.AccessError Bytes :=
  Files.unlessRefused refusals.opening (s.contentAt path)

/-- The text that bytes encode. -/
def decoded? (content : Bytes) : Option String := String.fromUTF8? ⟨content.toArray⟩

/-- The document of a text. -/
def document (text : String) : Except Yaml.Fault Value :=
  Yaml.read (Text.unifyLineEnds text.toList)

/-- Whether a document holds options: nothing, or a mapping whose keys are all known. -/
def HoldsOptions (v : Value) : Prop :=
  v = .null ∨ ∃ entries, v = .map entries ∧ ∀ e ∈ entries, Setting.isKnown e.1 = true

/-- Whether a document holds an integer that is too long to be shown where loading shows it: in the
first key that is not known or, when all keys are known, in the value that counts for a setting. -/
def HoldsLongNumber (v : Value) : Prop :=
  ∃ entries, v = .map entries ∧
    ((∃ k, unknownKey? entries = some k ∧ k.isShowable = false) ∨
      unknownKey? entries = none ∧
        ∃ (x : Setting) (w : Value), x.lastIn? entries = some w ∧ w.isShowable = false)

/-- Options can be shown if all their values can. -/
theorem isShowable_toMapping {o : Options} :
    (Value.map o.toMapping).isShowable = true ↔ ∀ x, (o.get x).isShowable = true := by
  have hwritten (v : Value) : (written v).isShowable = v.isShowable := by cases v <;> rfl
  rw [Value.isShowable_map_iff]
  constructor
  · intro h x
    by_cases hx : o.get x = .null
    · rw [hx]
      rfl
    · have hentry : (.str x.name, written (o.get x)) ∈ o.toMapping :=
        List.mem_map.mpr ⟨x, List.mem_filter.mpr ⟨x.mem_all, by simpa using hx⟩, rfl⟩
      exact hwritten (o.get x) ▸ (h _ hentry).2
  · intro h e he
    obtain ⟨x, -, rfl⟩ := List.mem_map.mp he
    exact ⟨rfl, (hwritten (o.get x)).trans (h x)⟩

/-- Options come from the documents that hold them and from no others, and they can be shown unless
the document holds an integer that is too long. -/
theorem ofDocument_spec (v : Value) :
    match ofDocument v with
    | .ok o => HoldsOptions v ∧ ((Value.map o.toMapping).isShowable = true ↔ ¬ HoldsLongNumber v)
    | .error failure => ¬ HoldsOptions v ∧ (failure = .longNumber ↔ HoldsLongNumber v) := by
  cases v with
  | null => exact ⟨.inl rfl, iff_of_true rfl (by rintro ⟨_, hmap, -⟩; cases hmap)⟩
  | map entries =>
      have hmapping := ofMapping_spec entries
      rw [ofDocument]
      cases hread : ofMapping entries with
      | ok o =>
          rw [hread] at hmapping
          obtain ⟨hknown, hget⟩ := hmapping
          refine ⟨.inr ⟨entries, rfl, unknownKey?_eq_none_iff.mp hknown⟩, ?_⟩
          have hshown (x : Setting) : (o.get x).isShowable = true ↔
              ¬ ∃ w, x.lastIn? entries = some w ∧ w.isShowable = false := by
            rw [hget x]
            cases x.lastIn? entries with
            | none => simp [Value.isShowable]
            | some w => simp
          simp [isShowable_toMapping, hshown, HoldsLongNumber, hknown]
      | error failure =>
          rw [hread] at hmapping
          obtain ⟨k, hk, rfl⟩ := hmapping
          refine ⟨?_, by simp [HoldsLongNumber, hk, ConfigError.isShowable]⟩
          rintro (hnull | ⟨_, hmap, hknown⟩)
          · cases hnull
          · obtain rfl := Value.map.inj hmap
            cases hk.symm.trans (unknownKey?_eq_none_iff.mpr hknown)
  | _ =>
      refine ⟨?_, iff_of_false ?_ ?_⟩
      · rintro (hnull | ⟨_, hmap, -⟩) <;> contradiction
      · simp [ConfigError.isShowable]
      · rintro ⟨_, hmap, -⟩
        contradiction

theorem result_noteLoaded {path : String} {v : Value} {o : Options}
    (h : (Value.map o.toMapping).isShowable = true) : (noteLoaded path v o).result = .ok o := by
  rw [noteLoaded, if_pos h]
  split <;> rfl

theorem result_noteLoaded_of_long {path : String} {v : Value} {o : Options}
    (hv : HoldsLongNumber v) (h : (Value.map o.toMapping).isShowable = false) :
    (noteLoaded path v o).result = .error (.options .longNumber) := by
  have hdocument : v ≠ .null := by
    rintro rfl
    obtain ⟨_, hmap, -⟩ := hv
    cases hmap
  rw [noteLoaded, if_neg hdocument, h]
  rfl

/-- The ends that loading can come to, each with what the file has to do with it. -/
inductive LoadEnds (path : String) (file : Except Files.AccessError Bytes) :
    Except FileFailure Options → Prop where
  | options {content text v o} (hfile : file = .ok content) (htext : decoded? content = some text)
      (hread : document text = .ok v) (hv : HoldsOptions v) (hshort : ¬ HoldsLongNumber v) :
      LoadEnds path file (.ok o)
  | filesystem {a e} (hfile : file = .error a) (ha : a ≠ .unusablePath) (hpath : e.path = path)
      (hoperation : e.operation = "read") : LoadEnds path file (.error (.filesystem e))
  | malformed {content text} (hfile : file = .ok content) (htext : decoded? content = some text)
      (hread : document text = .error .malformed) :
      LoadEnds path file (.error (.options (.config .invalidYaml)))
  | noOptions {content text v e} (hfile : file = .ok content) (htext : decoded? content = some text)
      (hread : document text = .ok v) (hv : ¬ HoldsOptions v) (hshort : ¬ HoldsLongNumber v) :
      LoadEnds path file (.error (.options (.config e)))
  | longNumber {content text v} (hfile : file = .ok content) (htext : decoded? content = some text)
      (hread : document text = .ok v) (hlong : HoldsLongNumber v) :
      LoadEnds path file (.error (.options .longNumber))
  | notText {content} (hfile : file = .ok content) (htext : decoded? content = none) :
      LoadEnds path file (.error .notText)
  | unreadableScalar {content text fault} (hfile : file = .ok content)
      (htext : decoded? content = some text) (hread : document text = .error fault)
      (hfault : fault ≠ .malformed) : LoadEnds path file (.error (.unreadableScalar fault))
  | unusablePath (hfile : file = .error .unusablePath) : LoadEnds path file (.error .unusablePath)

/-- The end of loading a text that reads as a document. -/
theorem loadEnds_ofDocument {path : String} {content : Bytes} {text : String} {v : Value}
    (htext : decoded? content = some text) (hread : document text = .ok v) :
    LoadEnds path (.ok content)
      (match ofDocument v with
        | .error failure => .error (.options failure)
        | .ok o => (noteLoaded path v o).result) := by
  have hspec := ofDocument_spec v
  cases hv : ofDocument v with
  | ok o =>
      rw [hv] at hspec
      obtain ⟨hholds, hshowable⟩ := hspec
      cases hlong : (Value.map o.toMapping).isShowable with
      | true =>
          have hshort : ¬ HoldsLongNumber v := hshowable.mp hlong
          simpa only [result_noteLoaded hlong] using .options rfl htext hread hholds hshort
      | false =>
          have hnumber : HoldsLongNumber v := by simpa [hlong] using hshowable
          simpa only [result_noteLoaded_of_long hnumber hlong] using
            .longNumber rfl htext hread hnumber
  | error failure =>
      rw [hv] at hspec
      obtain ⟨hholds, hlong⟩ := hspec
      cases failure with
      | config e =>
          have hshort : ¬ HoldsLongNumber v := by simpa using hlong
          exact .noOptions rfl htext hread hholds hshort
      | longNumber => exact .longNumber rfl htext hread (hlong.mp rfl)

/-- The end of loading a file that could be opened. -/
theorem loadEnds_ofBytes (path : String) (content : Bytes) :
    LoadEnds path (.ok content)
      (match ofBytes content with
        | .error e => .error e
        | .ok (v, o) => (noteLoaded path v o).result) := by
  rw [ofBytes]
  cases htext : String.fromUTF8? ⟨content.toArray⟩ with
  | none => exact .notText rfl htext
  | some text =>
      dsimp only
      cases hread : Yaml.read (Text.unifyLineEnds text.toList) with
      | error fault =>
          by_cases hfault : fault = .malformed
          · subst hfault
            exact .malformed rfl htext hread
          · have hfailure : yamlFailure fault = .unreadableScalar fault := by
              cases fault <;> first | rfl | contradiction
            show LoadEnds path _ (.error (yamlFailure fault))
            rw [hfailure]
            exact .unreadableScalar rfl htext hread hfault
      | ok v =>
          have hends : LoadEnds path (.ok content) _ := loadEnds_ofDocument htext hread
          show LoadEnds path _ (match ((ofDocument v).mapError FileFailure.options >>= fun o =>
            pure (v, o)) with
            | .error e => .error e
            | .ok (v, o) => (noteLoaded path v o).result)
          cases hv : ofDocument v with
          | ok o =>
              rw [hv] at hends
              exact hends
          | error failure =>
              rw [hv] at hends
              exact hends

theorem loadEnds_readFailure (path : String) (a : Files.AccessError) :
    LoadEnds path (.error a) (.error (readFailure path a)) := by
  cases a with
  | trouble t p => cases t <;> exact .filesystem rfl nofun rfl rfl
  | refused permission text => cases permission <;> exact .filesystem rfl nofun rfl rfl
  | unusablePath => exact .unusablePath rfl

/-- Loading comes to one of its ends, whatever the file holds. -/
theorem loadEnds_load (s : Files.Tree) (refusals : Files.Refusals) (path : String) :
    LoadEnds path (opened s refusals path) (load s refusals path).result := by
  rw [load, ← opened]
  cases opened s refusals path with
  | error a => exact loadEnds_readFailure path a
  | ok content =>
      have hbytes := loadEnds_ofBytes path content
      dsimp only
      cases hends : ofBytes content with
      | error e => simpa only [hends] using hbytes
      | ok p => simpa only [hends] using hbytes

theorem opened_eq_unusablePath_iff {s : Files.Tree} {refusals : Files.Refusals} {path : String}
    (h : refusals.opening ≠ some .unusablePath) :
    opened s refusals path = .error .unusablePath ↔
      refusals.opening = none ∧ Files.Tree.isUnusable path = true := by
  rw [opened]
  cases hrefusal : refusals.opening with
  | some a => simpa [Files.unlessRefused, hrefusal] using h
  | none =>
      have hcontent : s.contentAt path = .error .unusablePath ↔
          Files.Tree.isUnusable path = true := by
        rw [Files.Tree.contentAt]
        split
        · simp [*]
        · split
          · simp [*]
          · split <;> simp [*]
      simpa [Files.unlessRefused] using hcontent

end Options

end MarkdownAdf
