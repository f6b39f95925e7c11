import Moorage.Proofs.Failing

/-!
# `Moorage.Proofs.Blame`: failures that blame a reference

A reference that cannot be read, or that is not of the type that is wanted, is a failure of its own
kind. It may be the cause of another one: what fails at a step is wrapped in a failure that names
the step, and the reference is still to blame for it. `Error.blamesReference` looks through such
wrappings.

`NeverBlames` says of a program that may fail that none of its failures comes from a reference, as
long as none of the failures that it is answered does. The assumption is needed: the answers of the
surroundings are errors of the same type, and nothing in their type keeps an engine from answering
that a reference cannot be read. The surroundings that there are never do.

It is `FailsOnly` for these failures, and has the laws of that. They are stated again under the
names of this module, because here a failure that is caught and one that is left are of one kind, so
that a handler may pass on what it was given.
-/

set_option autoImplicit false

namespace Moorage

/-- Whether a reference is what failed, here or in what the failure comes from. A failure at a
step is looked through, and all others are what they are. -/
def Error.blamesReference : Error → Bool
  | .invalidReference _ _ => true
  | .provider _ _ source => source.blamesReference
  | _ => false

/-- No reference is to blame for the outcome, which may be a failure of any other kind. -/
def Blameless {α : Type} (outcome : Except Error α) : Prop :=
  ∀ error, outcome = .error error → error.blamesReference = false

section Outcome

variable {α β ε : Type} {outcome : Except Error α} {error : Error}

/-- A success blames nothing. Stated for `Blameless` under its own name, so that proofs about
creations need not open it. -/
theorem blameless_ok (value : α) : Blameless (.ok value) := failsWith_ok value

/-- A failure that is known is looked at itself, which for a constructor is a matter of `rfl`. -/
theorem blameless_error (h : error.blamesReference = false) :
    Blameless (.error error : Except Error α) := failsWith_error h

/-- Computations without calls, such as reading a range and then a mount, blame no reference when
none of their parts does. -/
theorem Blameless.bind {next : α → Except Error β} (h : Blameless outcome)
    (hnext : ∀ value, Blameless (next value)) : Blameless (outcome >>= next) :=
  FailsWith.bind h hnext

/-- What a fault of another kind becomes is not blamed on a reference. There is no fault of a
file, a request or a document that speaks of one. -/
theorem blameless_mapError {f : ε → Error} (h : ∀ fault, (f fault).blamesReference = false)
    (value : Except ε α) : Blameless (value.mapError f) :=
  failsWith_mapError h value

end Outcome

/-- No failure of the task blames a reference, when every exchange satisfies `ok`. As an
assumption this is needed where an answer is itself an error, which could blame one. -/
def NeverBlames {I : Interface} {α : Type} (ok : Exchange I → Prop)
    (task : ExceptT Error (Program I) α) : Prop :=
  Program.Ensures ok Blameless task.run

namespace NeverBlames

variable {I : Interface} {ok : Exchange I → Prop} {α β : Type} {task : ExceptT Error (Program I) α}

/-- A task that asks nothing and succeeds blames nothing. -/
protected theorem pure (value : α) : NeverBlames ok (pure value) := blameless_ok value

/-- A task that gives up blames a reference only if the error that it gives up with does. -/
protected theorem throw {error : Error} (h : error.blamesReference = false) :
    NeverBlames ok (throw error : ExceptT Error (Program I) α) := blameless_error h

/-- What was decided before has to be blameless. This is the place at which a reference enters a
task: it is read, and then the task goes on or fails. -/
theorem decided {outcome : Except Error α} (h : Blameless outcome) :
    NeverBlames ok (ExceptT.mk (pure outcome)) := h

/-- A task in two parts blames no reference when neither part does. The answers of the
surroundings are covered by `ok`, which holds of all exchanges of the run. -/
theorem bind {next : α → ExceptT Error (Program I) β} (h : NeverBlames ok task)
    (hnext : ∀ value, NeverBlames ok (next value)) : NeverBlames ok (task >>= next) :=
  FailsOnly.bind h hnext

/-- A handler sees only failures that blame no reference, so it may pass on what it is given. This
is what lets a failure be ignored in one case and be thrown again in all others. -/
theorem tryCatch {handler : Error → ExceptT Error (Program I) α} (h : NeverBlames ok task)
    (hhandler : ∀ error, error.blamesReference = false → NeverBlames ok (handler error)) :
    NeverBlames ok (tryCatch task handler) :=
  FailsOnly.tryCatch h hhandler

/-- A program that cannot fail blames nothing. -/
theorem lift (program : Program I α) : NeverBlames ok (ExceptT.lift program) :=
  FailsOnly.lift program

/-- A failure that is put down to a step is blamed on what it comes from, so a step neither adds
blame nor takes it away. -/
theorem within {action : Action α} {ok : Exchange Service.interface → Prop} {owner step : String}
    (h : NeverBlames ok action) : NeverBlames ok (Service.within owner step action) :=
  FailsOnly.within h fun _ hsource => hsource

end NeverBlames

end Moorage
