import Mathlib
import MarkdownAdf.Environment.Basic

/-!
# How flags are spelled

A flag is written by one of four words for true or one of four words for false, with any of their
letters in upper case.
-/

namespace MarkdownAdf

namespace Text

/-! ### Letter case -/

theorem not_isLower_of_isUpper {c : Char} (h : c.isUpper = true) : ¬ c.isLower = true := by
  intro hlower
  simp only [Char.isUpper, Char.isLower, Bool.and_eq_true, decide_eq_true_eq] at h hlower
  have hle : 'a'.val ≤ 'Z'.val := UInt32.le_trans hlower.1 h.2
  exact absurd hle (by decide)

/-- A character that is in lower case or has no case is the lower case of itself and of its upper
case alone. -/
theorem toLower_eq_iff {c w : Char} (hw : w.isUpper = false) :
    c.toLower = w ↔ c = w ∨ c = w.toUpper := by
  have hself : w.toLower = w := Char.toLower_eq_of_not_isUpper (ne_true_of_eq_false hw)
  constructor
  · rintro rfl
    by_cases hc : c.isUpper = true
    · refine .inr ?_
      rw [Char.toUpper_toLower_eq_toUpper,
        Char.toUpper_eq_of_not_isLower (not_isLower_of_isUpper hc)]
    · exact .inl (Char.toLower_eq_of_not_isUpper hc).symm
  · rintro (rfl | rfl)
    · exact hself
    · rw [Char.toLower_toUpper_eq_toLower, hself]

/-- Whether a character is of ASCII, not in upper case, and not the lower case of any character
outside ASCII. -/
def IsWordChar (w : Char) : Prop := w.toNat < 128 ∧ w.isUpper = false ∧ w ≠ 'k'

instance (w : Char) : Decidable (IsWordChar w) := inferInstanceAs (Decidable (_ ∧ _))

theorem lowerAscii_eq_iff {c w : Char} (hw : IsWordChar w) :
    lowerAscii c = w ↔ c = w ∨ c = w.toUpper := by
  obtain ⟨hascii, hupper, hk⟩ := hw
  rw [lowerAscii]
  split
  · next hc =>
    have hkelvin : w ≠ '\u212a' := by
      rintro rfl
      exact absurd hascii (by decide)
    have hlower : c.toLower = c := by rw [hc]; decide
    rw [← toLower_eq_iff hupper, hlower, hc]
    exact ⟨fun h => absurd h.symm hk, fun h => absurd h.symm hkelvin⟩
  · exact toLower_eq_iff hupper

/-- Whether a text is a word with any of its letters in upper case. -/
def IsSpelling (word text : String) : Prop :=
  List.Forall₂ (fun w c => c = w ∨ c = w.toUpper) word.toList text.toList

instance (word text : String) : Decidable (IsSpelling word text) :=
  inferInstanceAs (Decidable (List.Forall₂ _ _ _))

theorem map_lowerAscii_eq_iff {word cs : List Char} (hword : ∀ w ∈ word, IsWordChar w) :
    cs.map lowerAscii = word ↔ List.Forall₂ (fun w c => c = w ∨ c = w.toUpper) word cs := by
  induction cs generalizing word with
  | nil => simp [eq_comm]
  | cons c cs ih =>
      cases word with
      | nil => simp
      | cons w word =>
          have hw := hword w List.mem_cons_self
          have hrest : ∀ v ∈ word, IsWordChar v := fun v hv =>
            hword v (List.mem_cons_of_mem w hv)
          rw [List.map_cons, List.cons.injEq, List.forall₂_cons, lowerAscii_eq_iff hw, ih hrest]

theorem lowerWord_eq_iff {word text : String} (hword : ∀ w ∈ word.toList, IsWordChar w) :
    lowerWord text = word ↔ IsSpelling word text := by
  rw [lowerWord, ← String.toList_inj, String.toList_ofList]
  exact map_lowerAscii_eq_iff hword

end Text

namespace Environment

/-! ### Flags -/

/-- The words for the two values of a flag. -/
def flagWords : Bool → List String
  | true => trueWords
  | false => falseWords

/-- Whether a text spells a flag. -/
def SpellsFlag (text : String) (b : Bool) : Prop := ∃ word ∈ flagWords b, Text.IsSpelling word text

instance (text : String) (b : Bool) : Decidable (SpellsFlag text b) :=
  inferInstanceAs (Decidable (∃ word ∈ flagWords b, _))

theorem isWordChar_of_mem {word : String} {b : Bool} (h : word ∈ flagWords b) :
    ∀ w ∈ word.toList, Text.IsWordChar w := by
  have hwords : ∀ word ∈ flagWords b,
      word.toList.all (fun w => decide (Text.IsWordChar w)) = true := by
    cases b <;> decide
  simpa only [List.all_eq_true, decide_eq_true_eq] using hwords word h

theorem mem_flagWords_iff {text : String} {b : Bool} :
    Text.lowerWord text ∈ flagWords b ↔ SpellsFlag text b := by
  constructor
  · exact fun h => ⟨_, h, (Text.lowerWord_eq_iff (isWordChar_of_mem h)).mp rfl⟩
  · rintro ⟨word, hmem, hspelling⟩
    rwa [(Text.lowerWord_eq_iff (isWordChar_of_mem hmem)).mpr hspelling]

/-- A flag is read from exactly the texts that spell it. -/
theorem flag?_eq_some_iff {text : String} {b : Bool} :
    flag? text = some b ↔ SpellsFlag text b := by
  have hdisjoint : ∀ word ∈ trueWords, word ∉ falseWords := by decide
  rw [← mem_flagWords_iff, flag?]
  generalize Text.lowerWord text = word
  by_cases htrue : word ∈ trueWords
  · have hfalse := hdisjoint word htrue
    cases b <;> simp [flagWords, htrue, hfalse]
  · by_cases hfalse : word ∈ falseWords <;> cases b <;> simp [flagWords, htrue, hfalse]

example : SpellsFlag "yEs" true ∧ ¬ SpellsFlag "yep" true := by decide

end Environment

end MarkdownAdf
