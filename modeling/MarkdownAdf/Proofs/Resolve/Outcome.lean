import MarkdownAdf.Resolve.Outcome

/-!
# Outcomes as a monad

The laws of outcomes, and postconditions: what holds of the events and of the result of an outcome
that is not an abort.
-/

namespace MarkdownAdf.Outcome

variable {α β γ : Type}

theorem bind_error (es : List Event) (n : Notice) (f : α → Outcome β) :
    (⟨es, .error n⟩ : Outcome α) >>= f = ⟨es, .error n⟩ := rfl

theorem bind_ok (es : List Event) (a : α) (f : α → Outcome β) :
    (⟨es, .ok a⟩ : Outcome α) >>= f = ⟨es ++ (f a).events, (f a).result⟩ := rfl

protected theorem id_map (x : Outcome α) : id <$> x = x := by
  rcases x with ⟨es, n | a⟩
  · rfl
  · exact congrArg (Outcome.mk · _) (List.append_nil es)

protected theorem bind_assoc (x : Outcome α) (f : α → Outcome β) (g : β → Outcome γ) :
    x >>= f >>= g = x >>= fun a => f a >>= g := by
  rcases x with ⟨es, n | a⟩
  · rfl
  · rw [bind_ok, bind_ok]
    rcases f a with ⟨es', n | b⟩
    · rfl
    · rw [bind_ok, bind_ok, List.append_assoc]

instance : LawfulMonad Outcome :=
  LawfulMonad.mk' Outcome Outcome.id_map (fun _ _ => rfl) Outcome.bind_assoc

/-- Two steps have a result when the first has one and the second has one from it. -/
theorem result_bind_eq_ok {x : Outcome α} {f : α → Outcome β} {b : β} :
    (x >>= f).result = .ok b ↔ ∃ a, x.result = .ok a ∧ (f a).result = .ok b := by
  rcases x with ⟨es, n | a⟩
  · simp [bind_error]
  · simp [bind_ok]

/-- What follows a step counts only for the results that the step has. -/
theorem bind_congr_of_ok {x : Outcome α} {f g : α → Outcome β}
    (h : ∀ a, x.result = .ok a → f a = g a) : x >>= f = x >>= g := by
  rcases x with ⟨es, n | a⟩
  · rfl
  · rw [bind_ok, bind_ok, h a rfl]

theorem notices_append (as bs : List Event) : notices (as ++ bs) = notices as ++ notices bs :=
  List.filterMap_append

/-! ### Postconditions -/

/-- What holds of the events and the result of an outcome that is not an abort. -/
def Ensures (x : Outcome α) (P : List Event → α → Prop) : Prop :=
  ∀ a, x.result = .ok a → P x.events a

namespace Ensures

variable {P : List Event → α → Prop} {Q : List Event → β → Prop}

theorem pure {a : α} (h : P [] a) : Ensures (pure a) P := by
  intro b hb
  obtain rfl := Except.ok.inj hb
  exact h

theorem bind {x : Outcome α} {f : α → Outcome β} (hx : x.Ensures P)
    (hf : ∀ es a, P es a → (f a).Ensures fun es' b => Q (es ++ es') b) :
    Ensures (x >>= f) Q := by
  rcases x with ⟨es, n | a⟩
  · intro b hb
    cases hb
  · intro b hb
    exact hf es a (hx a rfl) b hb

theorem ite {c : Prop} [Decidable c] {x y : Outcome α} (hx : c → x.Ensures P)
    (hy : ¬c → y.Ensures P) : Ensures (if c then x else y) P := by
  split
  · exact hx ‹c›
  · exact hy ‹¬c›

theorem note (e : Event) : Ensures (note e) fun es _ => es = [e] := fun _ _ => rfl

/-- An event may be noted before a result is returned. -/
theorem ite_note {c : Prop} [Decidable c] {e : Event} {a b : α} {P : α → Prop} (ha : P a)
    (hb : P b) :
    Ensures (if c then Outcome.note e >>= fun _ => Pure.pure a else Pure.pure b) fun _ a => P a :=
  .ite (fun _ => .bind (.note e) fun _ _ _ => .pure ha) fun _ => .pure hb

/-- A report that does not end the conversion has recorded a warning. -/
theorem report (strict : Bool) (n : Notice) :
    Ensures (report strict n) fun es _ => es = [.warned n] := by
  rw [Outcome.report]
  refine .ite (fun _ a ha => ?_) fun _ => .note (.warned n)
  cases ha

end Ensures

end MarkdownAdf.Outcome
