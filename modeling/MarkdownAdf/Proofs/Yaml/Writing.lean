import MarkdownAdf.Text.Lines
import MarkdownAdf.Yaml.Printer.Value

/-!
# The characters of a written document

Whatever a value holds, the text that it is written as consists of characters that may stand in a
text as they are; all others are escaped. In particular the text has no carriage return, so that it
is read back as it was written.
-/

namespace MarkdownAdf

/-- A text without carriage returns has unified ends of line. -/
theorem Text.unifyLineEnds_eq_self {cs : List Char} (h : '\r' ∉ cs) : unifyLineEnds cs = cs := by
  fun_induction unifyLineEnds cs with
  | case1 => rfl
  | case2 rest ih => simp at h
  | case3 rest hnext ih => simp at h
  | case4 c rest hboth hreturn ih =>
      rw [ih fun hrest => h (List.mem_cons_of_mem c hrest)]

namespace Yaml

/-- Whether all characters may be written as they are. -/
def AreWritable (cs : List Char) : Prop := ∀ c ∈ cs, isWritable c = true

instance (cs : List Char) : Decidable (AreWritable cs) :=
  decidable_of_iff (cs.all isWritable = true) List.all_eq_true

theorem AreWritable.of_subset {cs ds : List Char} (h : AreWritable cs) (hsub : ds ⊆ cs) :
    AreWritable ds :=
  fun c hc => h c (hsub hc)

theorem AreWritable.cons {c : Char} {cs : List Char} (hc : isWritable c = true)
    (hcs : AreWritable cs) : AreWritable (c :: cs) :=
  List.forall_mem_cons.mpr ⟨hc, hcs⟩

theorem AreWritable.append {cs ds : List Char} (hcs : AreWritable cs) (hds : AreWritable ds) :
    AreWritable (cs ++ ds) :=
  List.forall_mem_append.mpr ⟨hcs, hds⟩

theorem AreWritable.reverse {cs : List Char} (h : AreWritable cs) : AreWritable cs.reverse :=
  fun c hc => h c (List.mem_reverse.mp hc)

theorem AreWritable.takeWhile {cs : List Char} (h : AreWritable cs) (q : Char → Bool) :
    AreWritable (cs.takeWhile q) :=
  h.of_subset (List.takeWhile_subset q)

theorem AreWritable.dropWhile {cs : List Char} (h : AreWritable cs) (q : Char → Bool) :
    AreWritable (cs.dropWhile q) :=
  h.of_subset (List.dropWhile_subset q)

theorem AreWritable.ite {b : Prop} [Decidable b] {cs ds : List Char} (hcs : b → AreWritable cs)
    (hds : ¬b → AreWritable ds) : AreWritable (if b then cs else ds) := by
  split
  · next h => exact hcs h
  · next h => exact hds h

theorem areWritable_replicate (n : Nat) : AreWritable (List.replicate n ' ') := by
  intro c hc
  rw [List.eq_of_mem_replicate hc]
  decide

/-! ### Single characters -/

theorem isWritable_of_isBreak {c : Char} (h : isBreak c = true) : isWritable c = true := by
  rcases by simpa [isBreak] using h with ((rfl | rfl) | rfl) | rfl <;> decide

theorem isWritable_of_isBare {c : Char} (h : isBare c = true) : isWritable c = true := by
  simp only [isBare, Bool.and_eq_true, Bool.or_eq_true, Bool.not_eq_true', Bool.or_eq_false_iff,
    decide_eq_true_eq, decide_eq_false_iff_not] at h
  simp only [isWritable, Bool.or_eq_true, Bool.and_eq_true, decide_eq_true_eq, bne_iff_ne,
    beq_iff_eq, ne_eq]
  obtain ⟨⟨⟨-, hmark⟩, -⟩, -⟩ := h.1
  rcases h.2 with (hascii | hlow) | hhigh
  · exact .inl (.inr hascii)
  · exact .inr ⟨.inl (.inl (.inr hlow)), hmark⟩
  · exact .inr ⟨.inl (.inr hhigh), hmark⟩

theorem isWritable_of_escapeLetter {c letter : Char} (h : escapeLetter? c = some letter) :
    isWritable letter = true := by
  unfold escapeLetter? at h
  split at h <;> cases h <;> decide

theorem areWritable_hexDigits (width n : Nat) :
    AreWritable ((Text.hexDigits width n).map Char.toUpper) := by
  have hdigit : ∀ d < 16, isWritable (Text.hexDigit d).toUpper = true := by decide
  induction width generalizing n with
  | zero => exact fun c hc => nomatch hc
  | succ width ih =>
      rw [Text.hexDigits, List.map_append]
      intro c hc
      rcases List.mem_append.mp hc with hc | hc
      · exact ih (n / 16) c hc
      · rw [List.mem_singleton.mp hc]
        exact hdigit _ (Nat.mod_lt n (by decide))

theorem areWritable_escaped (c : Char) : AreWritable (escaped c) := by
  rw [escaped]
  cases hletter : escapeLetter? c with
  | some letter =>
      exact .cons (by decide) (.cons (isWritable_of_escapeLetter hletter) nofun)
  | none =>
      have hcode (kind : Char) (hkind : isWritable kind = true) (width : Nat) :
          AreWritable ('\\' :: kind :: (Text.hexDigits width c.toNat).map Char.toUpper) :=
        .cons (by decide) (.cons hkind (areWritable_hexDigits width c.toNat))
      dsimp only
      split
      · exact hcode 'x' (by decide) 2
      · split
        · exact hcode 'u' (by decide) 4
        · exact hcode 'U' (by decide) 8

/-! ### The pen -/

namespace Pen

/-- Whether all that is written so far may stand in a text as it is. -/
def Writes (p : Pen) : Prop := AreWritable p.written

variable {p : Pen} {cs : List Char}

theorem Writes.ite {b : Prop} [Decidable b] {q : Pen} (hp : b → p.Writes) (hq : ¬b → q.Writes) :
    Writes (if b then p else q) := by
  split
  · next h => exact hp h
  · next h => exact hq h

theorem Writes.put (h : p.Writes) (hcs : AreWritable cs) : (p.put cs).Writes :=
  hcs.reverse.append h

theorem Writes.lineBreak (h : p.Writes) {c : Char} (hc : isBreak c = true) :
    (p.lineBreak c).Writes :=
  .cons (isWritable_of_isBreak hc) h

theorem Writes.indentTo (h : p.Writes) (column : Nat) : (p.indentTo column).Writes := by
  have hbreak : Writes (if !p.indenting || column < p.column || (p.column = column && !p.spaced)
      then p.lineBreak else p) :=
    .ite (fun _ => h.lineBreak (by decide)) fun _ => h
  have hfill (q : Pen) (hq : q.Writes) : Writes (if q.column < column then
      { q.put (List.replicate (column - q.column) ' ') with spaced := true } else q) :=
    .ite (fun _ => hq.put (areWritable_replicate _)) fun _ => hq
  exact hfill _ hbreak

theorem Writes.mark (h : p.Writes) (hcs : AreWritable cs) (gap item : Bool) :
    (p.mark cs gap item).Writes := by
  refine h.put ?_
  split
  · exact .cons (by decide) hcs
  · exact hcs

/-! ### Texts -/

theorem Writes.plainWords (h : p.Writes) (indent : Nat) (split : Bool) (fuel : Nat)
    (hcs : AreWritable cs) : (p.plainWords indent split fuel cs).Writes := by
  fun_induction Pen.plainWords indent split p fuel cs with
  | case1 p cs => exact h
  | case2 p fuel => exact h
  | case3 p fuel cs hne word rest p' spaces rest' p'' ih =>
      have hword : p'.Writes := h.put (hcs.takeWhile _)
      have hrest : AreWritable rest := hcs.dropWhile _
      refine ih ?_ (hrest.dropWhile _)
      exact .ite (fun _ => hword.indentTo indent) fun _ => hword.put (hrest.takeWhile _)

theorem Writes.plain (h : p.Writes) (indent : Nat) (split : Bool) (hcs : AreWritable cs) :
    (p.plain indent split cs).Writes := by
  have hgap : Writes (if p.spaced then p else p.put [' ']) :=
    .ite (fun _ => h) fun _ => h.put (by decide)
  have hstart : Writes { (if p.spaced then p else p.put [' ']) with
      spaced := false, indenting := false } := hgap
  exact .ite (fun _ => h) fun _ => hstart.plainWords indent split _ hcs

theorem Writes.lineBreaks (h : p.Writes) {breaks : List Char}
    (hbreaks : ∀ c ∈ breaks, isBreak c = true) :
    (breaks.foldl (fun p b => p.lineBreak b) p).Writes := by
  induction breaks generalizing p with
  | nil => exact h
  | cons c breaks ih =>
      obtain ⟨hc, hrest⟩ := List.forall_mem_cons.mp hbreaks
      exact ih (h.lineBreak hc) hrest

theorem Writes.singleParts (h : p.Writes) (indent : Nat) (split start : Bool) (fuel : Nat)
    (hcs : AreWritable cs) : (p.singleParts indent split start fuel cs).Writes := by
  fun_induction Pen.singleParts indent split start p fuel cs with
  | case1 => exact h
  | case2 => exact h
  | case3 start p fuel cs spaces rest p' ih =>
      obtain ⟨hspace, hcs⟩ := List.forall_mem_cons.mp hcs
      refine ih (.ite (fun _ => h.indentTo indent) fun _ => ?_) (AreWritable.dropWhile hcs _)
      exact h.put (.cons hspace (AreWritable.takeWhile hcs _))
  | case4 start p fuel c cs hspace hbreak breaks p' p'' ih =>
      obtain ⟨-, hcs⟩ := List.forall_mem_cons.mp hcs
      have hfirst : p'.Writes := .ite (fun _ => h.lineBreak (by decide)) fun _ => h
      have hbreaks : ∀ b ∈ c :: breaks, isBreak b = true :=
        List.forall_mem_cons.mpr ⟨hbreak, List.all_eq_true.mp List.all_takeWhile⟩
      exact ih ((hfirst.lineBreaks hbreaks).indentTo indent) (AreWritable.dropWhile hcs _)
  | case5 start p fuel cs hspace hbreak ih =>
      obtain ⟨hquote, hcs⟩ := List.forall_mem_cons.mp hcs
      exact ih (h.put (.cons hquote (.cons hquote nofun))) hcs
  | case6 start p fuel c cs hspace hbreak hquote inWord word ih =>
      obtain ⟨hc, hcs⟩ := List.forall_mem_cons.mp hcs
      exact ih (h.put (.cons hc (AreWritable.takeWhile hcs _))) (AreWritable.dropWhile hcs _)

theorem Writes.single (h : p.Writes) (indent : Nat) (split : Bool) (hcs : AreWritable cs) :
    (p.single indent split cs).Writes := by
  have hquote : AreWritable ['\''] := by decide
  exact ((h.mark hquote true false).singleParts indent split true _ hcs).mark hquote false false

/-- Between double quotes any characters may be written: those that may not stand as they are, are
escaped. -/
theorem Writes.doubleParts (h : p.Writes) (indent : Nat) (split : Bool) (length : Nat)
    {pending : List Char} (hpending : AreWritable pending) (index : Nat) (cs : List Char) :
    (p.doubleParts indent split length pending index cs).Writes := by
  have hescape : AreWritable ['\\'] := by decide
  fun_induction Pen.doubleParts indent split length p pending index cs with
  | case1 => exact h.put hpending.reverse
  | case2 p pending index c rest bare p1 before column fold hfold p2 p3 next p4 ih =>
      have h1 : p1.Writes := .ite (fun _ => h) fun _ =>
        (h.put hpending.reverse).put (areWritable_escaped c)
      have hbefore : AreWritable before := .ite (fun _ => hpending) fun _ => nofun
      have h3 : p3.Writes := (h1.put (hbefore.reverse.append hescape)).indentTo indent
      refine ih (.ite (fun _ => h3.put hescape) fun _ => h3) (.ite (fun hbare => ?_) fun _ => nofun)
      exact .cons (isWritable_of_isBare hbare) nofun
  | case3 p pending index c rest bare p1 before here column fold hfold ih =>
      have h1 : p1.Writes := .ite (fun _ => h) fun _ =>
        (h.put hpending.reverse).put (areWritable_escaped c)
      refine ih h1 (.ite (fun hbare => ?_) fun _ => nofun)
      exact .cons (isWritable_of_isBare hbare) hpending

theorem Writes.double (h : p.Writes) (indent : Nat) (split : Bool) (cs : List Char) :
    (p.double indent split cs).Writes := by
  have hquote : AreWritable ['"'] := by decide
  refine Writes.mark ?_ hquote false false
  exact (h.mark hquote true false).doubleParts indent split _ (by decide) 0 cs

/-- A text that is not written between double quotes has no character that has to be escaped. -/
theorem areWritable_of_quotingOf {own key : Bool} (h : quotingOf own key cs ≠ .double) :
    AreWritable cs := by
  have hspecial : (analyze cs).plainAllowed = true ∨ (analyze cs).singleAllowed = true := by
    refine Decidable.byContradiction fun hneither => h ?_
    simp only [not_or, Bool.not_eq_true] at hneither
    simp [quotingOf, hneither]
  intro c hc
  refine Decidable.byContradiction fun hno => ?_
  have hany : (cs.any fun c => !isWritable c) = true :=
    List.any_eq_true.mpr ⟨c, hc, by simpa using hno⟩
  simp [analyze, hany] at hspecial

theorem Writes.scalar (h : p.Writes) (indent : Nat) (own key : Bool) (cs : List Char) :
    (p.scalar indent own key cs).Writes := by
  rw [Pen.scalar]
  have hcs : quotingOf own key cs ≠ .double → AreWritable cs := areWritable_of_quotingOf
  cases hquoting : quotingOf own key cs with
  | plain => exact h.plain indent _ (hcs (by simp [hquoting]))
  | single => exact h.single indent _ (hcs (by simp [hquoting]))
  | double => exact h.double indent _ cs

/-! ### Values -/

mutual

theorem Writes.value {p : Pen} (h : p.Writes) (indent : Option Nat) (place : Place) :
    ∀ v : Value, (p.value indent place v).Writes
  | .list [] => (h.mark (by decide) true false).mark (by decide) false false
  | .map [] => (h.mark (by decide) true false).mark (by decide) false false
  | .list (v :: rest) => h.items _ (v :: rest)
  | .map (e :: rest) => h.entries _ (e :: rest)
  | .null | .bool _ | .int _ | .float _ | .str _ | .preset _ | .foreign .. => h.scalar _ _ _ _

theorem Writes.items {p : Pen} (h : p.Writes) (column : Nat) :
    ∀ items : List Value, (p.items column items).Writes
  | [] => h
  | v :: rest => by
      have hmark := (h.indentTo column).mark (show AreWritable ['-'] by decide) true true
      exact (hmark.value (some column) .item v).items column rest

theorem Writes.entries {p : Pen} (h : p.Writes) (column : Nat) :
    ∀ entries : List (Value × Value), (p.entries column entries).Writes
  | [] => h
  | (k, v) :: rest => by
      have hkey : Writes (if isSimpleKey k then
          ((p.indentTo column).value (some column) (.key true) k).mark [':'] false
        else
          let p := ((p.indentTo column).mark ['?'] true true).value (some column) (.key false) k
          (p.indentTo column).mark [':'] true true) := by
        have hindent := h.indentTo column
        refine .ite (fun _ => ?_) fun _ => ?_
        · exact (hindent.value (some column) (.key true) k).mark (by decide) false false
        · have hmark := hindent.mark (show AreWritable ['?'] by decide) true true
          have hkeyed := (hmark.value (some column) (.key false) k).indentTo column
          exact hkeyed.mark (by decide) true true
      exact (hkey.value (some column) .value v).entries column rest

end

end Pen

/-- A document is written in characters that may stand in a text as they are. -/
theorem areWritable_write (v : Value) : AreWritable (write v).toList := by
  have hempty : ({ } : Pen).Writes := show AreWritable [] by decide
  rw [write, String.toList_ofList]
  exact ((hempty.value none .root v).indentTo 0).reverse

/-- A document is read in the lines in which it was written. -/
theorem unifyLineEnds_write (v : Value) :
    Text.unifyLineEnds (write v).toList = (write v).toList :=
  Text.unifyLineEnds_eq_self fun hreturn => absurd (areWritable_write v _ hreturn) (by decide)

end Yaml

end MarkdownAdf
