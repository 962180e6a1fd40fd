import MarkdownAdf.Proofs.Text.Blank
import MarkdownAdf.Text.Digit

/-!
# Which texts write an integer

An integer is written as a row of digits with at most one sign in front of it, where single
underscores may stand between two digits. Reading gives the number for exactly these texts, and the
decimal form of every integer is one of them.
-/

namespace MarkdownAdf.Text

/-! ### Rows of digits -/

/-- Rows of digits with their values; single underscores stand between digits. -/
inductive WritesDigits : List Char → List Nat → Prop where
  | last {c d} (hd : digitValue? c = some d) : WritesDigits [c] [d]
  | next {c d cs ds} (hd : digitValue? c = some d) (hrest : WritesDigits cs ds) :
      WritesDigits (c :: cs) (d :: ds)
  | gap {c d cs ds} (hd : digitValue? c = some d) (hrest : WritesDigits cs ds) :
      WritesDigits (c :: '_' :: cs) (d :: ds)

/-- What may follow a digit of a row: its end, another digit, or an underscore before one. -/
inductive FollowsDigit : List Char → List Nat → Prop where
  | done : FollowsDigit [] []
  | digits {cs ds} (h : WritesDigits cs ds) : FollowsDigit cs ds
  | gap {cs ds} (h : WritesDigits cs ds) : FollowsDigit ('_' :: cs) ds

/-- Integer literals with their values: a row of digits with at most one sign in front. -/
inductive IsIntegerLiteral : List Char → Int → Prop where
  | plain {cs ds} (h : WritesDigits cs ds) : IsIntegerLiteral cs (ofDigits ds)
  | plus {cs ds} (h : WritesDigits cs ds) : IsIntegerLiteral ('+' :: cs) (ofDigits ds)
  | minus {cs ds} (h : WritesDigits cs ds) : IsIntegerLiteral ('-' :: cs) (-(ofDigits ds : Int))

variable {c : Char} {d : Nat} {cs : List Char} {ds : List Nat}

theorem writesDigits_cons_iff :
    WritesDigits (c :: cs) ds ↔
      ∃ d rest, digitValue? c = some d ∧ ds = d :: rest ∧ FollowsDigit cs rest := by
  constructor
  · intro h
    cases h with
    | last hd => exact ⟨_, _, hd, rfl, .done⟩
    | next hd hrest => exact ⟨_, _, hd, rfl, .digits hrest⟩
    | gap hd hrest => exact ⟨_, _, hd, rfl, .gap hrest⟩
  · rintro ⟨d, rest, hd, rfl, h⟩
    cases h with
    | done => exact .last hd
    | digits hrest => exact .next hd hrest
    | gap hrest => exact .gap hd hrest

/-- A row of digits starts with a digit. -/
theorem WritesDigits.ne_head (h : WritesDigits (c :: cs) ds) (hc : digitValue? c = none) :
    False := by
  obtain ⟨d, -, hd, -, -⟩ := writesDigits_cons_iff.mp h
  rw [hc] at hd
  cases hd

/-- The reader takes a whole row, or what follows a digit when it has read one. -/
theorem digitRun?_eq_some_iff :
    (digitRun? false cs = some ds ↔ WritesDigits cs ds) ∧
      (digitRun? true cs = some ds ↔ FollowsDigit cs ds) := by
  induction cs generalizing ds with
  | nil =>
      constructor
      · exact ⟨nofun, nofun⟩
      · constructor
        · rintro ⟨⟩
          exact .done
        · rintro (_ | h)
          · rfl
          · cases h
  | cons c cs ih =>
      by_cases hgap : c = '_'
      · subst hgap
        have hdigit : digitValue? '_' = none := by decide
        constructor
        · exact ⟨nofun, fun h => (h.ne_head hdigit).elim⟩
        · rw [digitRun?, if_pos rfl, if_pos rfl, ih.1]
          constructor
          · exact .gap
          · rintro (_ | h | h)
            · exact (h.ne_head hdigit).elim
            · exact h
      · have hfollows : FollowsDigit (c :: cs) ds ↔ WritesDigits (c :: cs) ds := by
          constructor
          · rintro (_ | h | h)
            · exact h
            · exact absurd rfl hgap
          · exact .digits
        have hrun (afterDigit : Bool) :
            digitRun? afterDigit (c :: cs) = some ds ↔ WritesDigits (c :: cs) ds := by
          rw [digitRun?, if_neg hgap, writesDigits_cons_iff]
          cases hd : digitValue? c with
          | none => simp
          | some d => simp [ih.2, and_comm, eq_comm (a := ds)]
        exact ⟨hrun false, (hrun true).trans hfollows.symm⟩

/-! ### Integer literals -/

/-- A text that starts and ends with no blank is read as an integer exactly if it is a literal. -/
theorem readInteger?_eq_some_iff {text : String} {n : Int}
    (htext : IsStripped isBlank text.toList) :
    readInteger? text = some n ↔ IsIntegerLiteral text.toList n := by
  have hpadding : IsStripped isNumberPadding text.toList :=
    htext.mono fun c hc => (Bool.and_eq_true_iff.mp hc).1
  rw [readInteger?, stripList_of_isStripped hpadding]
  generalize text.toList = cs
  have hrun (ds : List Char) (f : Nat → Int) :
      (digitRun? false ds).map (fun values => f (ofDigits values)) = some n ↔
        ∃ values, WritesDigits ds values ∧ f (ofDigits values) = n := by
    simp [Option.map_eq_some_iff, digitRun?_eq_some_iff.1]
  split
  · rw [hrun _ fun k => k]
    constructor
    · rintro ⟨values, h, rfl⟩
      exact .plus h
    · rintro (h | h | h)
      · exact (h.ne_head (by decide)).elim
      · exact ⟨_, h, rfl⟩
  · rw [hrun _ fun k => -k]
    constructor
    · rintro ⟨values, h, rfl⟩
      exact .minus h
    · rintro (h | h | h)
      · exact (h.ne_head (by decide)).elim
      · exact ⟨_, h, rfl⟩
  · next hplus hminus =>
    rw [hrun _ fun k => k]
    constructor
    · rintro ⟨values, h, rfl⟩
      exact .plain h
    · rintro (h | h | h)
      · exact ⟨_, h, rfl⟩
      · exact absurd rfl (hplus _)
      · exact absurd rfl (hminus _)

/-! ### Decimal form -/

theorem WritesDigits.concat (h : WritesDigits cs ds) (hd : digitValue? c = some d) :
    WritesDigits (cs ++ [c]) (ds ++ [d]) := by
  induction h with
  | last hlast => exact .next hlast (.last hd)
  | next hnext _ ih => exact .next hnext ih
  | gap hgap _ ih => exact .gap hgap ih

theorem ofDigits_concat (ds : List Nat) (d : Nat) :
    ofDigits (ds ++ [d]) = 10 * ofDigits ds + d := by
  rw [ofDigits, List.foldl_append]
  rfl

theorem digitValue?_digitChar : ∀ d < 10, digitValue? (Nat.digitChar d) = some d := by decide

/-- The decimal form of a number is a row of digits with its value. -/
theorem exists_writesDigits (n : Nat) :
    ∃ ds, WritesDigits (Nat.toDigits 10 n) ds ∧ ofDigits ds = n := by
  induction n using Nat.strongRecOn with
  | ind n ih =>
      rw [Nat.toDigits_eq_if (by decide)]
      split
      · next hn => exact ⟨[n], .last (digitValue?_digitChar n hn), by simp [ofDigits]⟩
      · next hn =>
        obtain ⟨ds, hds, hvalue⟩ := ih (n / 10) (by omega)
        refine ⟨ds ++ [n % 10], hds.concat (digitValue?_digitChar _ (by omega)), ?_⟩
        rw [ofDigits_concat, hvalue]
        omega

/-- Every integer is written by its decimal form. -/
theorem isIntegerLiteral_toString (n : Int) : IsIntegerLiteral (toString n).toList n := by
  cases n with
  | ofNat n =>
      obtain ⟨ds, hds, hvalue⟩ := exists_writesDigits n
      have htext : (toString (Int.ofNat n)).toList = Nat.toDigits 10 n := String.toList_ofList
      have hliteral := IsIntegerLiteral.plain hds
      rwa [hvalue, ← htext] at hliteral
  | negSucc n =>
      obtain ⟨ds, hds, hvalue⟩ := exists_writesDigits (n + 1)
      have htext : (toString (Int.negSucc n)).toList = '-' :: Nat.toDigits 10 (n + 1) := by
        show ("-" ++ Nat.repr (n + 1)).toList = _
        rw [String.toList_append]
        exact congrArg ('-' :: ·) String.toList_ofList
      have hliteral := IsIntegerLiteral.minus hds
      rwa [hvalue, ← htext] at hliteral

end MarkdownAdf.Text
