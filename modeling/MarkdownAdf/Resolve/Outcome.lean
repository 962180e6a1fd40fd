import MarkdownAdf.Log.Event

/-!
# Outcomes

A step of a conversion notes events and then either gives a result or aborts with a notice. What was
noted before an abort is kept.
-/

namespace MarkdownAdf

structure Outcome (α : Type) where
  events : List Event
  result : Except Notice α

namespace Outcome

variable {α β : Type}

protected def pure (a : α) : Outcome α := ⟨[], .ok a⟩

protected def bind (x : Outcome α) (f : α → Outcome β) : Outcome β :=
  match x.result with
  | .error n => ⟨x.events, .error n⟩
  | .ok a => ⟨x.events ++ (f a).events, (f a).result⟩

instance : Monad Outcome where
  pure := Outcome.pure
  bind := Outcome.bind

/-- Notes one event. -/
def note (e : Event) : Outcome Unit := ⟨[e], .ok ()⟩

/-- Records a warning. -/
def warn (n : Notice) : Outcome Unit := note (.warned n)

/-- Ends the conversion. -/
def abort (n : Notice) : Outcome α := ⟨[.aborting n], .error n⟩

/-- Records a warning, or ends the conversion when it is strict and the issue is abortable. -/
def report (strict : Bool) (n : Notice) : Outcome Unit :=
  if strict && n.issue.isAbortable then abort n else warn n

end Outcome

end MarkdownAdf
