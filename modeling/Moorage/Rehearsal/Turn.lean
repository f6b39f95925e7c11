import Moorage.Rehearsal.World

/-!
# `Moorage.Rehearsal.Turn`: programs in a rehearsal

A program goes on until it is finished or has to sleep. Nobody else acts in the
meantime.

* `Turn.play`: a program up to its first sleep.
* `Turn.settle`: a program that is alone in the world, up to its end.
-/

set_option autoImplicit false

namespace Moorage.Rehearsal

/-- A program where it stopped: at its end, which is a text if it crashed, or
asleep until an instant or, if its sleep can be cut, a cancellation. -/
inductive Turn (α : Type) where
  | finished (outcome : Except String α) (world : World)
  | asleep (due : Duration) (cuttable : Bool) (resume : (cut : Bool) → World → Turn α)
      (world : World)

namespace World

/-- The world in which every cancellation that is due has happened, and whether
there was one. -/
def cancelDue (w : World) : Bool × World :=
  if w.cancelAt.any fun instant => instant.nanos ≤ w.clock.nanos then
    (true, { w with
      cancelled := true
      cancelAt := w.cancelAt.filter fun instant => w.clock.nanos < instant.nanos })
  else (false, w)

/-- The earliest cancellation to come. -/
def nextCancellation (w : World) : Option Nat := (w.cancelAt.map Duration.nanos).min?

/-- The world after a sleep of its only program, and whether a cancellation cut
the sleep. A cancellation at the very end of a sleep comes too late for it. -/
def sleepUntil (due : Duration) (cuttable : Bool) (w : World) : Bool × World :=
  let (struck, w) := w.cancelDue
  if struck && cuttable then (true, w)
  else
    match w.nextCancellation with
    | none => (false, { w with clock := due })
    | some instant =>
        if due.nanos ≤ instant then (false, { w with clock := due })
        else if cuttable then (true, (cancelDue { w with clock := ⟨instant⟩ }).2)
        else
          (false, { w with
            clock := due
            cancelled := true
            cancelAt := w.cancelAt.filter fun instant => due.nanos ≤ instant.nanos })

end World

namespace Turn

variable {α : Type}

/-- A program of the resource at position `owner`, up to its first sleep. -/
def play (owner : Nat) : Program Service.interface α → World → Turn α
  | .done value, w => .finished (.ok value) w
  | .ask call next, w =>
      match w.meet owner call with
      | .answered (.ok answer) w => play owner (next answer) w
      | .answered (.error message) w => .finished (.error message) w
      | .wait due cuttable resume w =>
          .asleep due cuttable
            (fun cut w =>
              match resume cut w with
              | (.ok answer, w) => play owner (next answer) w
              | (.error message, w) => .finished (.error message) w)
            w

/-- The end of a program that is alone in the world, and the world then. -/
def settle : Turn α → Except String α × World
  | .finished outcome w => (outcome, w)
  | .asleep due cuttable resume w =>
      let (cut, w) := w.sleepUntil due cuttable
      settle (resume cut w)

/-- The failure of a task that crashed. -/
def crash (number : Nat) (message : String) : Error :=
  .engine "provider task" (.reported s!"task {number} panicked with message \"{message}\"")

/-- What a task that may crash comes to. -/
def outcomeOf (number : Nat) : Except String (Except Error α) → Except Error α
  | .ok outcome => outcome
  | .error message => .error (crash number message)

/-- The result of an action that is alone in the world, and the world then. -/
def perform (owner : Nat) (action : Action α) (w : World) : Except Error α × World :=
  let (outcome, w) := (play owner action.run w).settle
  (outcomeOf owner outcome, w)

end Turn

end Moorage.Rehearsal
