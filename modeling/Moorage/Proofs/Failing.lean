import Moorage.Container.Lifecycle
import Moorage.Health
import Moorage.Proofs.Program.Ensures

/-!
# `Moorage.Proofs.Failing`: how tasks fail

Which failures can a task come to? Two properties of the providers are answers to this: no failure
of a creation blames a reference that the graph has checked, and every failure names the resource
and the step. They are about different errors, but their proofs go through the same functions in
the same way. This module has what they share.

`FailsWith P` says of an outcome that it is a failure with `P` if it is one at all, and
`FailsOnly ok P` that a task comes to such outcomes only, as long as every exchange satisfies `ok`.
Nothing is said of successes, and a task that never fails satisfies every `FailsOnly`. There is a
law for each way of putting tasks together: `bind`, `tryCatch`, `lift` and `throw`. Then there are
laws for what providers do beyond that. A failure may be put down to a step, a wait may end
early, and a container may be removed before a failure goes on.

A law that catches failures has two properties of errors, `Q` for what is caught and `P` for what
is left. That is why the properties are parameters and not fixed once for a module.

A call needs no law: what it may be answered is what has to be shown of it. For a bound on the
answers this is the assumption `ok` itself, and where there is none, nothing at all.
-/

set_option autoImplicit false

namespace Moorage

/-- The outcome is a success, or a failure with `P`. The value of a success is not looked at. -/
def FailsWith {α : Type} (P : Error → Prop) (outcome : Except Error α) : Prop :=
  ∀ error, outcome = .error error → P error

section Outcome

variable {α β ε : Type} {P : Error → Prop} {outcome : Except Error α} {error : Error}

/-- A success has no failure to speak of, so it satisfies every `FailsWith`. -/
theorem failsWith_ok (value : α) : FailsWith P (.ok value) := fun _ heq => nomatch heq

/-- For an outcome that is a failure, the property of its failure is all that there is to show. -/
theorem failsWith_error (h : P error) : FailsWith P (.error error : Except Error α) := by
  intro error' heq
  cases heq
  exact h

/-- Two computations in a row fail as the first does, or as the second does on what the first
found. So each needs to be looked at alone, and the second for every value, not only for those
that the first can find. -/
theorem FailsWith.bind {next : α → Except Error β} (h : FailsWith P outcome)
    (hnext : ∀ value, FailsWith P (next value)) : FailsWith P (outcome >>= next) := by
  cases outcome with
  | ok value => exact hnext value
  | error error => exact failsWith_error (h error rfl)

/-- What a fault of another kind becomes is a failure with `P`. Requests and file operations have
faults of their own, and every operation has its own words for them. -/
theorem failsWith_mapError {f : ε → Error} (h : ∀ fault, P (f fault)) (value : Except ε α) :
    FailsWith P (value.mapError f) := by
  cases value with
  | ok value => exact failsWith_ok value
  | error fault => exact failsWith_error (h fault)

end Outcome

/-- Every failure of the task satisfies `P`, when every exchange satisfies `ok`. It is
`Program.Ensures` for outcomes, and takes its laws from there. -/
def FailsOnly {I : Interface} {α : Type} (ok : Exchange I → Prop) (P : Error → Prop)
    (task : ExceptT Error (Program I) α) : Prop :=
  Program.Ensures ok (FailsWith P) task.run

namespace FailsOnly

section Task

variable {I : Interface} {ok : Exchange I → Prop} {P Q : Error → Prop} {α β : Type}
  {task : ExceptT Error (Program I) α}

/-- A task that asks nothing and succeeds satisfies every `FailsOnly`, whatever `ok` is. -/
protected theorem pure (value : α) : FailsOnly ok P (pure value) := failsWith_ok value

/-- A task that gives up at once fails with that error and no other. -/
protected theorem throw {error : Error} (h : P error) :
    FailsOnly ok P (throw error : ExceptT Error (Program I) α) := failsWith_error h

/-- What was decided before fails in the way in which it was decided. Descriptions and names are
worked out without asking, and a task goes on from them. -/
theorem decided {outcome : Except Error α} (h : FailsWith P outcome) :
    FailsOnly ok P (ExceptT.mk (pure outcome)) := h

/-- The law that proofs about tasks are made of: the exchanges of both parts satisfy `ok` when
those of the whole do, so `ok` is the same on all three sides. -/
theorem bind {next : α → ExceptT Error (Program I) β} (h : FailsOnly ok P task)
    (hnext : ∀ value, FailsOnly ok P (next value)) : FailsOnly ok P (task >>= next) := by
  refine Program.ensures_bind h fun outcome houtcome => ?_
  cases outcome with
  | ok value => exact hnext value
  | error error => exact failsWith_error (houtcome error rfl)

/-- A failure that is caught may be any that the handler can deal with. What the action fails
with, `Q`, is therefore no bound on the whole. -/
theorem tryCatch {handler : Error → ExceptT Error (Program I) α} (h : FailsOnly ok Q task)
    (hhandler : ∀ error, Q error → FailsOnly ok P (handler error)) :
    FailsOnly ok P (tryCatch task handler) := by
  refine Program.ensures_bind h fun outcome houtcome => ?_
  cases outcome with
  | ok value => exact failsWith_ok value
  | error error => exact hhandler error (houtcome error rfl)

/-- A program that cannot fail does not. Its result is a value even where that value is an answer
which says that something went wrong. -/
theorem lift (program : Program I α) : FailsOnly ok P (ExceptT.lift program) :=
  Program.ensures_bind program.ensures_true fun value _ => failsWith_ok value

/-- Nothing is said of the failures. For actions whose failures are all caught. -/
theorem anyhow (task : ExceptT Error (Program I) α) : FailsOnly ok (fun _ => True) task :=
  task.run.ensures_true.mono fun _ _ _ _ => trivial

end Task

section Action

variable {α : Type} {ok : Exchange Service.interface → Prop} {P Q : Error → Prop}
  {owner step : String}

/-- A failure that is put down to a step comes from one of the action. What that one was does not
matter for properties that look at the step only, and matters for those that look through it. -/
theorem within {action : Action α} (h : FailsOnly ok Q action)
    (hstep : ∀ error, Q error → P (.provider owner step error)) :
    FailsOnly ok P (Service.within owner step action) := by
  refine Program.ensures_bind h fun outcome houtcome => ?_
  cases outcome with
  | ok value => exact failsWith_ok value
  | error error => exact failsWith_error (hstep error (houtcome error rfl))

/-- A wait fails with its check, or with a failure of its own: a timeout or a cancellation. By
induction on the rounds, each of which may be the last. -/
theorem poll {policy : PollPolicy} {check : Action Bool}
    (htimeout : P (Poll.timeout policy owner step)) (hcancelled : P (.cancelled owner step))
    (hcheck : FailsOnly ok P check) : FailsOnly ok P (poll policy owner step check) := by
  refine .bind (.lift _) fun deadline => ?_
  -- The clock and the walk cannot fail, so that the check and the two failures of the wait are
  -- left.
  induction policy.attempts with
  | zero => exact .throw htimeout
  | succ attempts ih =>
      unfold Poll.waitUntil
      refine .bind (.lift _) fun stop => ?_
      dsimp only
      split
      · exact failsWith_error hcancelled
      refine .bind hcheck fun holds => ?_
      split
      · exact .pure ()
      refine .bind (.lift _) fun now => ?_
      split
      · exact failsWith_error htimeout
      refine .bind (.lift _) fun cut => ?_
      split
      · exact failsWith_error hcancelled
      · exact ih

/-- Pods that cannot be listed are not ready, so that nothing but the wait fails. The selectors
are waited for one after the other, each with a wait of its own. -/
theorem waitForPods {access : ClusterAccess} {policy : PollPolicy}
    (htimeout : P (Poll.timeout policy owner "health check"))
    (hcancelled : P (.cancelled owner "health check")) (selectors : List String) :
    FailsOnly ok P (Health.waitForPods access policy owner selectors) := by
  induction selectors with
  | nil => exact .pure ()
  | cons selector selectors ih =>
      refine .bind (.poll htimeout hcancelled ?_) fun _ => ih
      exact .tryCatch (.anyhow _) fun _ _ => .pure false

/-- A container that is removed after a failure does not change the failure. The removal is tried,
and what it fails with is dropped. -/
theorem orRemove {id : String} {action : Action Unit} (h : FailsOnly ok P action) :
    FailsOnly ok P (Container.orRemove id action) := by
  refine .tryCatch h fun error herror => ?_
  refine .bind (.tryCatch (.anyhow _) fun _ _ => .pure ()) fun _ => .throw herror

end Action

end FailsOnly

end Moorage
