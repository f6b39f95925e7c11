import Moorage.Proofs.Service

/-!
# `Moorage.Proofs.Service.Moment`: the time that calls take

`Moment` is a view of the surroundings: what the clock shows, and whether the work was
cancelled. `Moment.Passes` says what an exchange does to it when sleeps are exact. The clock is
read at once, a pause that nothing cuts takes its span to the nanosecond, and one that is cut
ends with the work cancelled. Any other call takes as long as it does: the time of a check is not
bounded, so what is shown of waits holds however slow the checks are, unless a bound is assumed.

A pause that ends just as the work is cancelled may be answered either way. The two are raced, and
both have come about.

Real sleeps may be longer than asked for. That they are exact is an assumption of everything that
is shown with this view, and it is made here and nowhere else.
-/

set_option autoImplicit false

namespace Moorage

/-- What the clock shows, in nanoseconds, and whether the work was cancelled. Both are seen by a
program only when it asks. -/
structure Moment where
  now : Nat
  cancelled : Bool := false
  deriving DecidableEq

namespace Moment

variable {a b c m m' : Moment}

/-- The clock does not go back, and a cancellation is not taken back. This is all that is known of
calls other than pauses and looks at the clock. -/
structure Precedes (a b : Moment) : Prop where
  now : a.now ≤ b.now
  cancelled : a.cancelled = true → b.cancelled = true

/-- A moment precedes itself: calls may take no time. -/
theorem Precedes.refl (m : Moment) : m.Precedes m := ⟨Nat.le_refl _, id⟩

/-- Time goes on from one exchange to the next, and work that was cancelled stays so. -/
theorem Precedes.trans (hab : a.Precedes b) (hbc : b.Precedes c) : a.Precedes c :=
  ⟨Nat.le_trans hab.now hbc.now, hbc.cancelled ∘ hab.cancelled⟩

/-- What an exchange does to the moment when sleeps are exact. A deadline is an instant that lies
the span ahead, and a pause that was cut ends before its time or at it, with the work cancelled. -/
def Passes (m : Moment) (x : Exchange Service.interface) (m' : Moment) : Prop :=
  match x with
  | ⟨.now, now⟩ => now = ⟨m.now⟩ ∧ m' = m
  | ⟨.deadline span, deadline⟩ => deadline = ⟨m.now + span.nanos⟩ ∧ m' = m
  | ⟨.isCancelled, cancelled⟩ => cancelled = m.cancelled ∧ m' = m
  | ⟨.pause span, false⟩ => m.Precedes m' ∧ m'.now = m.now + span.nanos
  | ⟨.pause span, true⟩ => m.Precedes m' ∧ m'.now ≤ m.now + span.nanos ∧ m'.cancelled = true
  | _ => m.Precedes m'

/-- No exchange turns the clock back or takes a cancellation back, whatever it is answered. -/
theorem Passes.precedes {x : Exchange Service.interface} (h : m.Passes x m') : m.Precedes m' := by
  obtain ⟨call, answer⟩ := x
  cases call with
  | now | deadline | isCancelled =>
      obtain ⟨-, rfl⟩ := h
      exact .refl _
  | pause span =>
      cases answer with
      | false => exact h.1
      | true => exact h.1
  | _ => exact h

/-- Time passes from exchange to exchange, so that it passes over a whole run. -/
theorem precedes_of_replays {log : Exchanges} (h : Exchange.Replays Passes m log m') :
    m.Precedes m' := by
  induction h with
  | nil m => exact .refl m
  | cons first _ ih => exact first.precedes.trans ih

end Moment

end Moorage
