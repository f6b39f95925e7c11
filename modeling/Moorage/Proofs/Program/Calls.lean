import Moorage.Proofs.Service

/-!
# `Moorage.Proofs.Program.Calls`: the calls that a program can make

`Program.Asks P` says that every call a program can make satisfies `P`, whatever it is answered.
This is a bound from above: a program that asks nothing satisfies all of them. It has a law for
each way of putting actions together, so that a bound on the calls of a part is a bound on the
calls of the whole. Between parts with different bounds `Asks.mono` takes the one to the other.

The bounds are used in two ways. They keep a task away from what belongs to others, such as the
files and containers of another resource, and they say that an effect on the surroundings can only
come from one part of a program, since the other parts do not make the call that has it.

* `Asks.call_of_mem`, `Asks.of_mem_trace`: the exchanges of a program are of such calls.
-/

set_option autoImplicit false

namespace Moorage

namespace Program

variable {I : Interface} {α β : Type} {P Q : I.Call → Prop}

/-- Every call that the program can make satisfies the predicate, whatever the answers are.
Answers that no surroundings give are followed as well, so the bound may be wider than need be. -/
def Asks (P : I.Call → Prop) : Program I α → Prop
  | done _ => True
  | ask call next => P call ∧ ∀ answer, (next answer).Asks P

/-- A bound on the calls may be widened. Bounds are written for each function by the calls that it
makes itself, and are brought to the bound of the whole with this. -/
theorem Asks.mono {program : Program I α} (h : program.Asks P) (hPQ : ∀ call, P call → Q call) :
    program.Asks Q := by
  induction program with
  | done value => trivial
  | ask call next ih => exact ⟨hPQ call h.1, fun answer => ih answer (h.2 answer)⟩

/-- The calls of two parts in a row are those of the first and those of the second, which has to
satisfy the bound for every value, since nothing is assumed of the answers. -/
theorem asks_bind {program : Program I α} {next : α → Program I β} (h : program.Asks P)
    (hnext : ∀ value, (next value).Asks P) : (program >>= next).Asks P := by
  induction program with
  | done value => exact hnext value
  | ask call rest ih => exact ⟨h.1, fun answer => ih answer (h.2 answer)⟩

/-- A single call is within every bound that allows it. The answer may be anything. -/
theorem asks_perform {call : I.Call} (h : P call) : (perform call).Asks P :=
  ⟨h, fun _ => trivial⟩

/-- A program that may fail goes on when its first part succeeds. The second part is bounded for
every value, and for the failures there is nothing left to be bounded. -/
theorem asks_fallible_bind {ε : Type} {task : ExceptT ε (Program I) α}
    {next : α → ExceptT ε (Program I) β} (h : task.run.Asks P)
    (hnext : ∀ value, (next value).run.Asks P) : (task >>= next).run.Asks P := by
  refine asks_bind h fun outcome => ?_
  cases outcome with
  | ok value => exact hnext value
  | error error => trivial

/-- Every exchange is of a call that the program can make. This takes a bound on the program to
the exchanges of any run of it. -/
theorem Asks.call_of_mem {program : Program I α} (h : program.Asks P) {log : List (Exchange I)}
    {value : α} (hyields : Yields program log value) {x : Exchange I} (hx : x ∈ log) : P x.call := by
  induction hyields with
  | done value => cases hx
  | ask answer _ ih =>
      rcases List.mem_cons.mp hx with rfl | hx
      · exact h.1
      · exact ih (h.2 answer) hx

/-- The exchanges of a run are of calls that the program can make, whatever the surroundings
answer and whatever state they answer from. -/
theorem Asks.of_mem_trace {program : Program I α} (h : program.Asks P) {σ : Type}
    {answer : (call : I.Call) → σ → I.Answer call × σ} {s : σ} {x : Exchange I}
    (hx : x ∈ program.trace answer s) : P x.call :=
  h.call_of_mem (yields_trace answer program s) hx

end Program

namespace Action

variable {α β : Type} {P : Service.Call → Prop}

/-- Every call that the action can make satisfies the predicate, whatever the answers are. An
action is a program with an outcome, and its calls are those of the program. -/
def Asks (P : Service.Call → Prop) (action : Action α) : Prop :=
  Program.Asks (I := Service.interface) P (ExceptT.run action)

/-- The bound on the calls of an action may be widened, as for programs. -/
theorem Asks.mono {Q : Service.Call → Prop} {action : Action α} (h : action.Asks P)
    (hPQ : ∀ call, P call → Q call) : action.Asks Q := Program.Asks.mono h hPQ

/-- An action that asks nothing is within every bound. -/
theorem asks_pure (value : α) : Asks P (pure value) := trivial

/-- An action that gives up asks nothing any more. -/
theorem asks_throw (error : Error) : Asks P (throw error : Action α) := trivial

/-- To take a failure as an answer of the program changes none of the calls. -/
theorem asks_attempt {program : Program Service.interface (Except Error α)} (h : program.Asks P) :
    Asks P (Service.attempt program) := h

/-- A program that cannot fail makes the same calls when it is made an action. -/
theorem asks_always {program : Program Service.interface α} (h : program.Asks P) :
    Asks P (Service.always program) := Program.asks_bind h fun _ => trivial

/-- The calls of two actions in a row. The second is not reached when the first fails, which only
takes calls away. -/
theorem asks_bind {action : Action α} {next : α → Action β} (h : action.Asks P)
    (hnext : ∀ value, (next value).Asks P) : (action >>= next).Asks P :=
  Program.asks_fallible_bind h hnext

/-- What was decided before asks for nothing, and what follows may rely on it. A blueprint that
was worked out can so be known in the bound on the call that has it. -/
theorem asks_mk_pure_bind {value : Except Error α} {next : α → Action β}
    (hnext : ∀ a, value = .ok a → (next a).Asks P) : (ExceptT.mk (pure value) >>= next).Asks P := by
  cases value with
  | ok a => exact hnext a rfl
  | error error => trivial

/-- A handler adds its own calls to those of the action, for whatever failure it is given. -/
theorem asks_tryCatch {action : Action α} {handler : Error → Action α} (h : action.Asks P)
    (hhandler : ∀ error, (handler error).Asks P) : (tryCatch action handler).Asks P := by
  refine Program.asks_bind h fun outcome => ?_
  cases outcome with
  | ok value => trivial
  | error error => exact hhandler error

/-- To put failures down to a step asks nothing: it changes what a failure says, not what is
called. -/
theorem asks_within {owner step : String} {action : Action α} (h : action.Asks P) :
    (Service.within owner step action).Asks P := by
  refine Program.asks_bind h fun outcome => ?_
  cases outcome <;> trivial

end Action

end Moorage
