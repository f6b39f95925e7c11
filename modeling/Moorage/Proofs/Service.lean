import Moorage.Proofs.Program
import Moorage.Proofs.Program.Fallible
import Moorage.Service

/-!
# `Moorage.Proofs.Service`: the exchanges of actions

An action is a program that may fail. `Action.Yields` is `Program.Yields` for actions, with
a law for each way of putting actions together, so that no proof about an action has to
look at how failures are passed on. A single call makes a single exchange.

Where only the surroundings matter, `Action.Runs` leaves the exchanges out: it says which result
a run comes to and what becomes of a view of the surroundings. It has the same laws.
`run_bind_of_error` and `run_bind_of_ok` say how a run of two parts goes on from a run of the first.

The three are about the same runs and differ in what they tell. Statements about the order of
calls are about exchanges, those about containers or files that are left are about a view, and
witnesses for given surroundings are about `run`. `Action.Yields` is an equivalence for
each law, because a proof has to go from the exchanges of the whole to those of the parts and
also, where a run is shown to exist, the other way round.
-/

set_option autoImplicit false

namespace Moorage

/-- What an action asked, and what it was answered. The list is in the order of the calls and has
all of them. -/
abbrev Exchanges := List (Exchange Service.interface)

/-- The action makes the calls of the list, when they are answered as the list says, and
ends in the result. -/
def Action.Yields {α : Type} (action : Action α) (log : Exchanges) (result : Except Error α) :
    Prop :=
  Program.Yields (ExceptT.run action) log result

namespace Action

variable {α β : Type}

/-- A value makes no exchange. -/
theorem yields_pure_iff {value : α} {log : Exchanges} {result : Except Error α} :
    Yields (pure value) log result ↔ log = [] ∧ result = .ok value := Program.yields_done_iff

/-- An action that gives up makes no call, and its failure is the one that it was given. -/
theorem yields_throw_iff {error : Error} {log : Exchanges} {result : Except Error α} :
    Yields (throw error) log result ↔ log = [] ∧ result = .error error := Program.yields_done_iff

/-- No run of an action that gives up ends in a success. This closes the branches of a proof that
a success has ruled out. -/
theorem not_yields_throw_ok {error : Error} {log : Exchanges} {value : α} :
    ¬ Yields (throw error) log (.ok value) := by
  intro h
  cases (yields_throw_iff.mp h).2

/-- What was decided before makes no exchange, whether it is a value or a failure. -/
theorem yields_mk_pure_iff {value : Except Error α} {log : Exchanges} {result : Except Error α} :
    Yields (ExceptT.mk (pure value)) log result ↔ log = [] ∧ result = value :=
  Program.yields_done_iff

/-- The second part follows when the first succeeds; a failure of the first is that of both. Every
`do` block of a provider is taken apart with this, one line after the other. -/
theorem yields_bind_iff {action : Action α} {next : α → Action β} {log : Exchanges}
    {result : Except Error β} :
    Yields (action >>= next) log result ↔
      (∃ error, Yields action log (.error error) ∧ result = .error error) ∨
      ∃ first value second, Yields action first (.ok value) ∧
        Yields (next value) second result ∧ log = first ++ second :=
  Program.yields_fallible_bind_iff

/-- When both parts together succeed, each of them does. For proofs about what a creation has made
that went well. -/
theorem Yields.of_bind_ok {action : Action α} {next : α → Action β} {log : Exchanges} {value : β}
    (h : Yields (action >>= next) log (.ok value)) :
    ∃ first between second, Yields action first (.ok between) ∧
      Yields (next between) second (.ok value) ∧ log = first ++ second :=
  Program.Yields.of_fallible_bind_ok h

/-- `yields_bind_iff` for a first part without a value. There is only one value that such a part
can come to, which need not be carried along. -/
theorem yields_then_iff {action : Action Unit} {next : Unit → Action β} {log : Exchanges}
    {result : Except Error β} :
    Yields (action >>= next) log result ↔
      (∃ error, Yields action log (.error error) ∧ result = .error error) ∨
      ∃ first second, Yields action first (.ok ()) ∧ Yields (next ()) second result ∧
        log = first ++ second := by
  rw [yields_bind_iff]
  constructor
  · rintro (h | ⟨first, ⟨⟩, second, h⟩)
    · exact Or.inl h
    · exact Or.inr ⟨first, second, h⟩
  · rintro (h | ⟨first, second, h⟩)
    · exact Or.inl h
    · exact Or.inr ⟨first, (), second, h⟩

/-- The handler follows when the action fails. It is given the failure, and may pass it on, drop
it or put it in other words. -/
theorem yields_tryCatch_iff {action : Action α} {handler : Error → Action α} {log : Exchanges}
    {result : Except Error α} :
    Yields (tryCatch action handler) log result ↔
      (∃ value, Yields action log (.ok value) ∧ result = .ok value) ∨
      ∃ first error second, Yields action first (.error error) ∧
        Yields (handler error) second result ∧ log = first ++ second :=
  Program.yields_fallible_tryCatch_iff

/-- A failure is put down to a step; the exchanges are those of the action. Values go through. -/
theorem yields_within_iff {owner step : String} {action : Action α} {log : Exchanges}
    {result : Except Error α} :
    Yields (Service.within owner step action) log result ↔
      ∃ outcome, Yields action log outcome ∧ result = outcome.mapError (.provider owner step) := by
  refine Iff.trans Program.yields_bind_iff ?_
  constructor
  · rintro ⟨first, outcome, second, hfirst, hsecond, rfl⟩
    cases outcome with
    | ok value =>
        obtain ⟨rfl, rfl⟩ := Program.yields_done_iff.mp hsecond
        rw [List.append_nil]
        exact ⟨_, hfirst, rfl⟩
    | error error =>
        obtain ⟨rfl, rfl⟩ := Program.yields_done_iff.mp hsecond
        rw [List.append_nil]
        exact ⟨_, hfirst, rfl⟩
  · rintro ⟨outcome, hfirst, rfl⟩
    refine ⟨log, outcome, [], hfirst, ?_, (List.append_nil log).symm⟩
    cases outcome <;> exact .done _

/-- A program that cannot fail makes its own exchanges. What it was answered is its result, even
if that says that something went wrong. -/
theorem yields_always_iff {program : Program Service.interface α} {log : Exchanges}
    {result : Except Error α} :
    Yields (Service.always program) log result ↔
      ∃ value, Program.Yields program log value ∧ result = .ok value :=
  Program.yields_fallible_lift_iff

/-- After a failure nothing follows. Where a program gives up in the middle, the rest need not be
looked at. -/
theorem yields_throw_bind_iff {error : Error} {next : α → Action β} {log : Exchanges}
    {result : Except Error β} :
    Yields ((throw error : Action α) >>= next) log result ↔ log = [] ∧ result = .error error :=
  Program.yields_done_iff

/-! ### Single calls -/

variable {log : Exchanges}

/-- The question for an image is one exchange, and the answer is the result: a failure of the
engine is not told from the answer that the image is there or not. -/
theorem yields_imageExists_iff {image : String} {result : Except Error Bool} :
    Yields (Service.imageExists image) log result ↔ log = [⟨.imageExists image, result⟩] :=
  Program.yields_perform_iff

/-- One call pulls an image, and it fails as the engine says. -/
theorem yields_pullImage_iff {image : Image} {result : Except Error Unit} :
    Yields (Service.pullImage image) log result ↔ log = [⟨.pullImage image, result⟩] :=
  Program.yields_perform_iff

/-- A container is made with one call, whose answer is the identifier that all later steps are
given. -/
theorem yields_createContainer_iff {name : String} {blueprint : Blueprint}
    {result : Except Error String} :
    Yields (Service.createContainer name blueprint) log result ↔
      log = [⟨.createContainer name blueprint, result⟩] :=
  Program.yields_perform_iff

/-- A container is connected to one network with one call. The address and the names that it has
there are part of the call. -/
theorem yields_connectNetwork_iff {id network : String} {address : Option String}
    {aliases : List String} {result : Except Error Unit} :
    Yields (Service.connectNetwork id network address aliases) log result ↔
      log = [⟨.connectNetwork id network address aliases, result⟩] :=
  Program.yields_perform_iff

/-- A container is started with one call, which has no answer besides its success. -/
theorem yields_startContainer_iff {id : String} {result : Except Error Unit} :
    Yields (Service.startContainer id) log result ↔ log = [⟨.startContainer id, result⟩] :=
  Program.yields_perform_iff

/-- A container is removed with one call. Whether it was there is the engine's business: a
container that is missing is a failure like others. -/
theorem yields_removeContainer_iff {id : String} {result : Except Error Unit} :
    Yields (Service.removeContainer id) log result ↔ log = [⟨.removeContainer id, result⟩] :=
  Program.yields_perform_iff

/-- The containers of a name are found with one call, in the order in which the engine tells
them. -/
theorem yields_findContainers_iff {fqdn : String} {result : Except Error (List String)} :
    Yields (Service.findContainers fqdn) log result ↔ log = [⟨.findContainers fqdn, result⟩] :=
  Program.yields_perform_iff

/-- A call that cannot fail makes a single exchange, whatever its answer says. The clock is asked
in this way, and the file system. -/
theorem yields_call_iff (call : Service.Call) {result : Except Error (Service.Answer call)} :
    Yields (Service.always (Program.perform (I := Service.interface) call)) log result ↔
      ∃ answer : Service.Answer call, log = [⟨call, answer⟩] ∧ result = .ok answer :=
  yields_always_iff.trans (exists_congr fun _ => and_congr_left' Program.yields_perform_iff)

/-- `yields_call_iff` for a call that others follow. -/
theorem yields_call_bind_iff (call : Service.Call) {next : Service.Answer call → Action α}
    {result : Except Error α} :
    Yields (Service.always (Program.perform (I := Service.interface) call) >>= next) log result ↔
      ∃ (answer : Service.Answer call) (rest : Exchanges),
        log = ⟨call, answer⟩ :: rest ∧ Yields (next answer) rest result := by
  refine Iff.trans yields_bind_iff ?_
  constructor
  · rintro (⟨error, hfail, -⟩ | ⟨first, answer, second, hfirst, hsecond, rfl⟩)
    · obtain ⟨_, -, heq⟩ := (yields_call_iff call).mp hfail
      cases heq
    · obtain ⟨_, rfl, heq⟩ := (yields_call_iff call).mp hfirst
      cases heq
      exact ⟨answer, second, rfl, hsecond⟩
  · rintro ⟨answer, rest, rfl, hrest⟩
    exact Or.inr ⟨_, answer, rest, (yields_call_iff call).mpr ⟨answer, rfl, rfl⟩, hrest, rfl⟩

/-! ### Runs in surroundings that answer from a state -/

section Run

variable {σ : Type} {answer : (call : Service.Call) → σ → Service.Answer call × σ} {s s' : σ}

/-- Nothing follows a failure of the first part: the run ends in the state that this part has
left. -/
theorem run_bind_of_error {action : Action α} {error : Error}
    (h : action.run.run answer s = (.error error, s')) (next : α → Action β) :
    (action >>= next).run.run answer s = (.error error, s') ∧
    (action >>= next).run.trace answer s = action.run.trace answer s := by
  refine ⟨(Program.run_bind (I := Service.interface) answer action.run _ s).trans ?_,
    (Program.trace_bind (I := Service.interface) answer action.run _ s).trans ?_⟩
  · rw [h]
    rfl
  · rw [h]
    exact List.append_nil _

/-- The second part follows with the result of the first, and in the state that it left. Of given
surroundings this computes the run of a whole from those of its parts. -/
theorem run_bind_of_ok {action : Action α} {value : α}
    (h : action.run.run answer s = (.ok value, s')) (next : α → Action β) :
    (action >>= next).run.run answer s = (next value).run.run answer s' ∧
    (action >>= next).run.trace answer s
      = action.run.trace answer s ++ (next value).run.trace answer s' := by
  refine ⟨(Program.run_bind (I := Service.interface) answer action.run _ s).trans ?_,
    (Program.trace_bind (I := Service.interface) answer action.run _ s).trans ?_⟩
  · rw [h]
    rfl
  · rw [h]
    rfl

end Run

/-! ### Runs on a view of the surroundings -/

/-- A run of the action comes to the result, and takes a view of the surroundings from `before`
to `after`, when each exchange has on it the effect that is given. -/
def Runs {μ : Type} (effect : μ → Exchange Service.interface → μ → Prop) (action : Action α)
    (before : μ) (result : Except Error α) (after : μ) : Prop :=
  ∃ log, action.Yields log result ∧ Exchange.Replays effect before log after

namespace Runs

variable {μ : Type} {effect : μ → Exchange Service.interface → μ → Prop} {before after : μ}

/-- In surroundings that answer from a state, where every answer has its effect on the view. Most
theorems about views are stated for runs, and this is how they come to be about `Runs`. -/
theorem of_run {σ : Type} (answer : (call : Service.Call) → σ → Service.Answer call × σ)
    {view : σ → μ}
    (heffect : ∀ call s, effect (view s) ⟨call, (answer call s).1⟩ (view (answer call s).2))
    (action : Action α) (s : σ) :
    action.Runs effect (view s) (action.run.run answer s).1 (view (action.run.run answer s).2) :=
  ⟨action.run.trace answer s, Program.yields_trace (I := Service.interface) answer action.run s,
    Program.replays_trace (I := Service.interface) answer heffect action.run s⟩

/-- An action that asks nothing leaves the view of the surroundings as it was. -/
theorem of_pure {value : α} {result : Except Error α}
    (h : Runs effect (pure value) before result after) : result = .ok value ∧ after = before := by
  obtain ⟨log, hyields, hreplays⟩ := h
  obtain ⟨rfl, rfl⟩ := yields_pure_iff.mp hyields
  exact ⟨rfl, (Exchange.replays_nil_iff.mp hreplays).symm⟩

/-- An action that gives up leaves the view of the surroundings as it was. -/
theorem of_throw {error : Error} {result : Except Error α}
    (h : Runs effect (throw error) before result after) :
    result = .error error ∧ after = before := by
  obtain ⟨log, hyields, hreplays⟩ := h
  obtain ⟨rfl, rfl⟩ := yields_throw_iff.mp hyields
  exact ⟨rfl, (Exchange.replays_nil_iff.mp hreplays).symm⟩

/-- The second part runs on the view that the first part leaves. After a failure of the first part
the view is as that part has left it. -/
theorem of_bind {action : Action α} {next : α → Action β} {result : Except Error β}
    (h : Runs effect (action >>= next) before result after) :
    (∃ error, action.Runs effect before (.error error) after ∧ result = .error error) ∨
    ∃ value between, action.Runs effect before (.ok value) between ∧
      (next value).Runs effect between result after := by
  obtain ⟨log, hyields, hreplays⟩ := h
  rcases yields_bind_iff.mp hyields with ⟨error, hfirst, rfl⟩ |
    ⟨first, value, second, hfirst, hsecond, rfl⟩
  · exact Or.inl ⟨error, ⟨log, hfirst, hreplays⟩, rfl⟩
  · obtain ⟨between, hbefore, hafter⟩ := Exchange.replays_append_iff.mp hreplays
    exact Or.inr ⟨value, between, ⟨first, hfirst, hbefore⟩, ⟨second, hsecond, hafter⟩⟩

/-- A step does to the surroundings what its action does, and its failure is the action's, put
down to the step. -/
theorem of_within {owner step : String} {action : Action α} {result : Except Error α}
    (h : Runs effect (Service.within owner step action) before result after) :
    ∃ outcome, action.Runs effect before outcome after ∧
      result = outcome.mapError (.provider owner step) := by
  obtain ⟨log, hyields, hreplays⟩ := h
  obtain ⟨outcome, haction, rfl⟩ := yields_within_iff.mp hyields
  exact ⟨outcome, ⟨log, haction, hreplays⟩, rfl⟩

/-- The handler runs on the view that the failed action leaves. What the action did before it
failed is not undone. -/
theorem of_tryCatch {action : Action α} {handler : Error → Action α} {result : Except Error α}
    (h : Runs effect (tryCatch action handler) before result after) :
    (∃ value, action.Runs effect before (.ok value) after ∧ result = .ok value) ∨
    ∃ error between, action.Runs effect before (.error error) between ∧
      (handler error).Runs effect between result after := by
  obtain ⟨log, hyields, hreplays⟩ := h
  rcases yields_tryCatch_iff.mp hyields with ⟨value, haction, rfl⟩ |
    ⟨first, error, second, hfirst, hsecond, rfl⟩
  · exact Or.inl ⟨value, ⟨log, haction, hreplays⟩, rfl⟩
  · obtain ⟨between, hbefore, hafter⟩ := Exchange.replays_append_iff.mp hreplays
    exact Or.inr ⟨error, between, ⟨first, hfirst, hbefore⟩, ⟨second, hsecond, hafter⟩⟩

/-- A single call has its own effect on the view, and this is the only one. -/
theorem of_single {action : Action α} {result : Except Error α} {x : Exchange Service.interface}
    (h : action.Runs effect before result after) (hx : ∀ log, action.Yields log result → log = [x]) :
    effect before x after := by
  obtain ⟨log, hyields, hreplays⟩ := h
  obtain rfl := hx log hyields
  obtain ⟨_, hfirst, hnil⟩ := Exchange.replays_cons_iff.mp hreplays
  rwa [Exchange.replays_nil_iff.mp hnil] at hfirst

/-- `of_single` for a call that cannot fail. -/
theorem of_call {call : Service.Call} {result : Except Error (Service.Answer call)}
    (h : Runs effect (Service.always (Program.perform (I := Service.interface) call)) before
      result after) : ∃ answer, result = .ok answer ∧ effect before ⟨call, answer⟩ after := by
  obtain ⟨log, hyields, hreplays⟩ := h
  obtain ⟨answer, rfl, rfl⟩ := (yields_call_iff call).mp hyields
  obtain ⟨_, hfirst, hnil⟩ := Exchange.replays_cons_iff.mp hreplays
  exact ⟨answer, rfl, Exchange.replays_nil_iff.mp hnil ▸ hfirst⟩

end Runs

end Action

end Moorage
