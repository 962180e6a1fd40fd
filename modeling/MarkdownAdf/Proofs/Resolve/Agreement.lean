import MarkdownAdf.Proofs.Resolve.Outcome

/-!
# Outcomes that agree

Two conversions side by side. They agree when both abort with the same notice or both give results
that are related, and when they note the same events as far as events of a certain sort are
concerned. The rules follow the ways in which outcomes are put together.
-/

namespace MarkdownAdf.Outcome

variable {α β γ δ : Type} {seen : Event → Bool}

/-- Both results are the same abort, or neither is one and they are related. -/
inductive SameEnd (R : α → β → Prop) : Except Notice α → Except Notice β → Prop where
  | error (n : Notice) : SameEnd R (.error n) (.error n)
  | ok {a : α} {b : β} (h : R a b) : SameEnd R (.ok a) (.ok b)

theorem SameEnd.mono {R R' : α → β → Prop} {r : Except Notice α} {r' : Except Notice β}
    (h : SameEnd R r r') (hR : ∀ a b, R a b → R' a b) : SameEnd R' r r' := by
  cases h with
  | error n => exact .error n
  | ok hab => exact .ok (hR _ _ hab)

theorem SameEnd.exists {R : α → β → Prop} {r : Except Notice α} {r' : Except Notice β}
    (h : SameEnd R r r') :
    (∃ n, r = .error n ∧ r' = .error n) ∨ ∃ a b, r = .ok a ∧ r' = .ok b ∧ R a b := by
  cases h with
  | error n => exact .inl ⟨n, rfl, rfl⟩
  | ok hab => exact .inr ⟨_, _, rfl, rfl, hab⟩

/-- Outcomes that note the same events, of those that are `seen`, and end in the same way. -/
structure Agrees (seen : Event → Bool) (R : α → β → Prop) (x : Outcome α) (y : Outcome β) :
    Prop where
  events : x.events.filter seen = y.events.filter seen
  results : SameEnd R x.result y.result

namespace Agrees

variable {R : α → β → Prop} {S : γ → δ → Prop} {x : Outcome α} {y : Outcome β}

theorem mono {R' : α → β → Prop} (h : Agrees seen R x y) (hR : ∀ a b, R a b → R' a b) :
    Agrees seen R' x y :=
  ⟨h.events, h.results.mono hR⟩

theorem refl (x : Outcome α) : Agrees seen Eq x x := by
  refine ⟨rfl, ?_⟩
  cases x.result with
  | error n => exact .error n
  | ok a => exact .ok rfl

/-- An outcome agrees with itself when what it ensures relates its result to itself. -/
theorem of_ensures {R : α → α → Prop} {P : α → Prop} {x : Outcome α}
    (hx : x.Ensures fun _ a => P a) (h : ∀ a, P a → R a a) : Agrees seen R x x := by
  refine ⟨rfl, ?_⟩
  cases hresult : x.result with
  | error n => exact .error n
  | ok a => exact .ok (h a (hx a hresult))

/-- Outcomes agree in everything that is seen when they have the same result. -/
theorem eq_iff {x y : Outcome α} :
    Agrees seen Eq x y ↔ x.events.filter seen = y.events.filter seen ∧ x.result = y.result := by
  refine ⟨fun h => ⟨h.events, ?_⟩, fun ⟨hevents, hresult⟩ => ⟨hevents, ?_⟩⟩
  · obtain ⟨n, hx, hy⟩ | ⟨a, _, hx, hy, rfl⟩ := h.results.exists
    · rw [hx, hy]
    · rw [hx, hy]
  · have hself : Agrees seen Eq y y := .refl y
    rw [hresult]
    exact hself.results

theorem pure {a : α} {b : β} (h : R a b) : Agrees seen R (pure a) (pure b) := ⟨rfl, .ok h⟩

theorem bind {f : α → Outcome γ} {g : β → Outcome δ} (hxy : Agrees seen R x y)
    (hfg : ∀ a b, R a b → Agrees seen S (f a) (g b)) : Agrees seen S (x >>= f) (y >>= g) := by
  obtain ⟨hevents, hresults⟩ := hxy
  rcases x with ⟨es, rx⟩
  rcases y with ⟨es', ry⟩
  cases hresults with
  | error n => exact ⟨hevents, .error n⟩
  | @ok a b hab =>
      have hnext := hfg a b hab
      refine ⟨?_, hnext.results⟩
      rw [bind_ok, bind_ok, List.filter_append, List.filter_append]
      exact congr (congrArg _ hevents) hnext.events

/-- The second outcome may change its result at the end. -/
theorem map_right {S : α → γ → Prop} {g : β → γ} (hxy : Agrees seen R x y)
    (h : ∀ a b, R a b → S a (g b)) :
    Agrees seen S x (y >>= fun b => Pure.pure (g b)) := by
  have hx : x >>= Pure.pure = x := bind_pure x
  rw [← hx]
  exact hxy.bind fun a b hab => .pure (h a b hab)

theorem ite {c d : Prop} [Decidable c] [Decidable d] {x' : Outcome α} {y' : Outcome β}
    (hcd : c ↔ d) (h : Agrees seen R x y) (h' : Agrees seen R x' y') :
    Agrees seen R (if c then x else x') (if d then y else y') := by
  by_cases hc : c
  · rw [if_pos hc, if_pos (hcd.mp hc)]
    exact h
  · rw [if_neg hc, if_neg (mt hcd.mpr hc)]
    exact h'

/-- Both note the same event, or neither does, before they return. -/
theorem ite_note {c d : Prop} [Decidable c] [Decidable d] {e : Event} {a a' : α} {b b' : β}
    (hcd : c ↔ d) (h : R a b) (h' : R a' b') :
    Agrees seen R (if c then note e >>= fun _ => Pure.pure a else Pure.pure a')
      (if d then note e >>= fun _ => Pure.pure b else Pure.pure b') :=
  .ite hcd (.bind (.refl _) fun _ _ _ => .pure h) (.pure h')

/-- An event that is not seen may be noted on one side alone. -/
theorem skip_left {e : Event} (he : seen e = false) (h : Agrees seen R x y) :
    Agrees seen R (note e >>= fun _ => x) y := by
  refine ⟨?_, h.results⟩
  rw [note, bind_ok, List.filter_append, List.filter_cons_of_neg (by simp [he])]
  exact h.events

theorem skip_right {e : Event} (he : seen e = false) (h : Agrees seen R x y) :
    Agrees seen R x (note e >>= fun _ => y) := by
  refine ⟨?_, h.results⟩
  rw [note, bind_ok, List.filter_append, List.filter_cons_of_neg (by simp [he])]
  exact h.events

theorem ite_skip_left {c : Prop} [Decidable c] {e : Event} (he : seen e = false)
    (h : Agrees seen R x y) : Agrees seen R (if c then note e >>= fun _ => x else x) y := by
  split
  · exact h.skip_left he
  · exact h

theorem ite_skip_right {c : Prop} [Decidable c] {e : Event} (he : seen e = false)
    (h : Agrees seen R x y) : Agrees seen R x (if c then note e >>= fun _ => y else y) := by
  split
  · exact h.skip_right he
  · exact h

/-- What is made of the seen events alone is the same for both. -/
theorem filterMap_events {ε : Type} (h : Agrees seen R x y) {f : Event → Option ε}
    (hf : ∀ e, seen e = false → f e = none) :
    x.events.filterMap f = y.events.filterMap f := by
  have hseen (es : List Event) : es.filterMap f = (es.filter seen).filterMap f := by
    rw [List.filterMap_filter]
    refine congrArg (fun g => List.filterMap g es) (funext fun e => ?_)
    cases he : seen e with
    | false => simpa using hf e he
    | true => rfl
  rw [hseen, hseen y.events, h.events]

end Agrees

end MarkdownAdf.Outcome
