import Moorage.Health
import Moorage.Proofs.Service

/-!
# `Moorage.Proofs.Poll`: the exchanges of a wait

A wait is told by the exchanges of its checks and by those with the clock and the walk in
between. `Waits` lists the ways in which a wait can end; of a check it takes which exchanges
come to which result, so it can be read without the program of the check.

In each round the wait asks whether it was cancelled, checks, asks for the time and pauses, and it
may end at each of these. The rounds are as many as the policy says, and each constructor
takes one: a wait whose rounds have run out ends as one whose deadline has come. For a positive
interval the deadline comes first, which is shown where time is taken into account.

* `polls_of_yields`: what a wait asks, and what it comes to.
* `Waits.exists_held`: a wait that succeeds ends in a check that holds.
* `Health.exists_answer_of_yields`: the check of a wait for pods.
-/

set_option autoImplicit false

namespace Moorage.Poll

/-- How long to pause before the next check: no longer than until the deadline. So the last check
before a timeout starts at the deadline and not after it. -/
def rest (policy : PollPolicy) (deadline now : Duration) : Duration :=
  ⟨min policy.interval.nanos (deadline.nanos - now.nanos)⟩

/-- A wait with at most so many checks makes the exchanges of the list and comes to the
result. The relation `Checks` tells the exchanges and the result of a single check. -/
inductive Waits (policy : PollPolicy) (owner step : String)
    (Checks : Exchanges → Except Error Bool → Prop) (deadline : Duration) :
    Nat → Exchanges → Except Error Unit → Prop
  | exhausted : Waits policy owner step Checks deadline 0 [] (.error (timeout policy owner step))
  | stopped {attempts : Nat} :
      Waits policy owner step Checks deadline (attempts + 1) [⟨.isCancelled, true⟩]
        (.error (.cancelled owner step))
  | broken {attempts : Nat} {own : Exchanges} {error : Error} (check : Checks own (.error error)) :
      Waits policy owner step Checks deadline (attempts + 1) (⟨.isCancelled, false⟩ :: own)
        (.error error)
  | held {attempts : Nat} {own : Exchanges} (check : Checks own (.ok true)) :
      Waits policy owner step Checks deadline (attempts + 1) (⟨.isCancelled, false⟩ :: own) (.ok ())
  | late {attempts : Nat} {own : Exchanges} {now : Duration} (check : Checks own (.ok false))
      (passed : deadline.nanos ≤ now.nanos) :
      Waits policy owner step Checks deadline (attempts + 1)
        (⟨.isCancelled, false⟩ :: (own ++ [⟨.now, now⟩])) (.error (timeout policy owner step))
  | cut {attempts : Nat} {own : Exchanges} {now : Duration} (check : Checks own (.ok false))
      (ahead : now.nanos < deadline.nanos) :
      Waits policy owner step Checks deadline (attempts + 1)
        (⟨.isCancelled, false⟩ :: (own ++ [⟨.now, now⟩, ⟨.pause (rest policy deadline now), true⟩]))
        (.error (.cancelled owner step))
  | again {attempts : Nat} {own later : Exchanges} {now : Duration} {result : Except Error Unit}
      (check : Checks own (.ok false)) (ahead : now.nanos < deadline.nanos)
      (next : Waits policy owner step Checks deadline attempts later result) :
      Waits policy owner step Checks deadline (attempts + 1)
        (⟨.isCancelled, false⟩ ::
          (own ++ ([⟨.now, now⟩, ⟨.pause (rest policy deadline now), false⟩] ++ later))) result

/-- The deadline of a wait is set, and then it runs with the attempts of the policy. `Checks`
tells what a check may have asked and come to. -/
def Polls (policy : PollPolicy) (owner step : String)
    (Checks : Exchanges → Except Error Bool → Prop) (log : Exchanges)
    (result : Except Error Unit) : Prop :=
  ∃ deadline later, log = ⟨.deadline policy.deadline, deadline⟩ :: later ∧
    Waits policy owner step Checks deadline policy.attempts later result

variable {policy : PollPolicy} {owner step : String} {check : Action Bool}
  {Checks : Exchanges → Except Error Bool → Prop} {deadline : Duration}

/-- Every run of a wait ends in one of the ways that there are. By induction on its rounds, each
of which asks about a cancellation, checks, reads the clock and pauses. -/
theorem waits_of_yields
    (hchecks : ∀ own outcome, check.Yields own outcome → Checks own outcome) {attempts : Nat}
    {log : Exchanges} {result : Except Error Unit}
    (h : Action.Yields (waitUntil policy owner step check deadline attempts) log result) :
    Waits policy owner step Checks deadline attempts log result := by
  -- One attempt makes its exchanges with the walk and the clock around those of the check, and
  -- at each of them the wait may be over.
  induction attempts generalizing log with
  | zero =>
      obtain ⟨rfl, rfl⟩ := Action.yields_throw_iff.mp h
      exact .exhausted
  | succ attempts ih =>
      unfold waitUntil at h
      obtain ⟨stop, log, rfl, hrest⟩ := (Action.yields_call_bind_iff .isCancelled).mp h
      cases stop with
      | true =>
          obtain ⟨rfl, rfl⟩ := Action.yields_throw_bind_iff.mp hrest
          exact .stopped
      | false =>
          rcases Action.yields_bind_iff.mp hrest with
            ⟨error, hcheck, rfl⟩ | ⟨own, holds, log, hcheck, hend, rfl⟩
          · exact .broken (hchecks _ _ hcheck)
          cases holds with
          | true =>
              obtain ⟨rfl, rfl⟩ := Action.yields_pure_iff.mp hend
              rw [List.append_nil]
              exact .held (hchecks _ _ hcheck)
          | false =>
              obtain ⟨now, log, rfl, hnow⟩ := (Action.yields_call_bind_iff .now).mp hend
              by_cases hpassed : deadline.nanos ≤ now.nanos
              · rw [if_pos hpassed] at hnow
                obtain ⟨rfl, rfl⟩ := Action.yields_throw_bind_iff.mp hnow
                exact .late (hchecks _ _ hcheck) hpassed
              · rw [if_neg hpassed] at hnow
                obtain ⟨cut, log, rfl, hpause⟩ := (Action.yields_call_bind_iff (.pause _)).mp hnow
                have hahead := Nat.lt_of_not_le hpassed
                cases cut with
                | true =>
                    obtain ⟨rfl, rfl⟩ := Action.yields_throw_bind_iff.mp hpause
                    exact .cut (hchecks _ _ hcheck) hahead
                | false => exact .again (hchecks _ _ hcheck) hahead (ih hpause)

/-- What a wait asks, and what it comes to. Proofs about a wait take it apart with this, and never
open `poll`. -/
theorem polls_of_yields
    (hchecks : ∀ own outcome, check.Yields own outcome → Checks own outcome) {log : Exchanges}
    {result : Except Error Unit} (h : Action.Yields (poll policy owner step check) log result) :
    Polls policy owner step Checks log result := by
  obtain ⟨deadline, later, rfl, hwait⟩ := (Action.yields_call_bind_iff (.deadline _)).mp h
  exact ⟨deadline, later, rfl, waits_of_yields hchecks hwait⟩

/-- A wait that succeeds ends in a check that holds. It is the last thing that the wait has
asked. -/
theorem Waits.exists_held {attempts : Nat} {log : Exchanges}
    (h : Waits policy owner step Checks deadline attempts log (.ok ())) :
    ∃ own, own <:+ log ∧ Checks own (.ok true) := by
  generalize hresult : (.ok () : Except Error Unit) = result at h
  -- Only two of the ways to end come to a success, and one of them goes on.
  induction h with
  | held check => exact ⟨_, List.suffix_cons _ _, check⟩
  | again _ _ _ ih =>
      obtain ⟨own, hown, hheld⟩ := ih hresult
      refine ⟨own, ?_, hheld⟩
      exact (hown.trans (List.suffix_append _ _)).trans
        ((List.suffix_append _ _).trans (List.suffix_cons _ _))
  | exhausted | stopped | broken | late | cut => cases hresult

section Calls

variable {P : Service.Call → Prop} (hcancelled : P .isCancelled) (hnow : P .now)
  (hpause : ∀ span, P (.pause span))
  (hchecks : ∀ own outcome, Checks own outcome → ∀ x ∈ own, P x.call)

include hcancelled hnow hpause hchecks

/-- What holds of the calls of a check, and of the clock and the walk, holds of a whole wait. For
calls of which there must be none. -/
theorem Waits.forall_call {attempts : Nat} {log : Exchanges} {result : Except Error Unit}
    (h : Waits policy owner step Checks deadline attempts log result) : ∀ x ∈ log, P x.call := by
  induction h with
  | exhausted => simp
  | stopped => simpa using hcancelled
  | broken check | held check => exact List.forall_mem_cons.mpr ⟨hcancelled, hchecks _ _ check⟩
  | late check | cut check =>
      simpa [or_imp, forall_and, hcancelled, hnow, hpause] using hchecks _ _ check
  | again check _ _ ih =>
      simpa [or_imp, forall_and, hcancelled, hnow, hpause] using ⟨hchecks _ _ check, ih⟩

/-- What holds of the calls of the checks, and of those in between, holds of all calls. One more
is the setting of the deadline. -/
theorem Polls.forall_call {log : Exchanges} {result : Except Error Unit}
    (h : Polls policy owner step Checks log result) (hdeadline : P (.deadline policy.deadline)) :
    ∀ x ∈ log, P x.call := by
  obtain ⟨deadline, later, rfl, hwait⟩ := h
  exact List.forall_mem_cons.mpr
    ⟨hdeadline, hwait.forall_call hcancelled hnow hpause hchecks⟩

end Calls

end Moorage.Poll

namespace Moorage.Health

/-- A look at pods is a single exchange. Pods that cannot be listed are not ready, so a look
itself never fails. -/
theorem exists_answer_of_yields {access : ClusterAccess} {selector : String} {log : Exchanges}
    {result : Except Error Bool} (h : (podsSettled access selector).Yields log result) :
    ∃ answer : Except Error Bool, log = [⟨.podsReady access selector, answer⟩] ∧
      result = .ok (answer.toOption.getD false) := by
  rcases Action.yields_tryCatch_iff.mp h with ⟨ready, hcall, rfl⟩ |
    ⟨_, error, _, hcall, hrest, rfl⟩
  · obtain rfl := Program.yields_perform_iff.mp hcall
    exact ⟨.ok ready, rfl, rfl⟩
  · obtain rfl := Program.yields_perform_iff.mp hcall
    obtain ⟨rfl, rfl⟩ := Action.yields_pure_iff.mp hrest
    exact ⟨.error error, rfl, rfl⟩

end Moorage.Health
