import Moorage.Proofs.Container.Steps
import Moorage.Proofs.Poll

/-!
# `Moorage.Proofs.Service.FailFast`: a failure is the last call

What is done step by step ends with the first step that fails. Of its exchanges this says that
only the last one can be a failure: `Exchanges.FailFast`. Waits are of this kind when their
checks are, and the steps of creating a container are.

Not everything is. A check that takes a failure for an answer of its own goes on after it, and so
does the removal of containers, which passes over one that is gone. The property is therefore asked
of checks and shown of steps, and not of all actions.
-/

set_option autoImplicit false

namespace Moorage

open Service (Call)

/-- The call was answered with a failure. Pods that cannot be listed are not ready, which is no
failure. -/
def Exchange.Failed (x : Exchange Service.interface) : Prop :=
  match x with
  | ⟨.imageExists _, answer⟩ | ⟨.pullImage _, answer⟩ | ⟨.createContainer _ _, answer⟩
  | ⟨.connectNetwork _ _ _ _, answer⟩ | ⟨.startContainer _, answer⟩ | ⟨.removeContainer _, answer⟩
  | ⟨.findContainers _, answer⟩ | ⟨.containerLogs _, answer⟩ | ⟨.copyFromContainer _ _, answer⟩
  | ⟨.createVolume _, answer⟩ | ⟨.createNetwork _ _ _, answer⟩ | ⟨.findNetworks _, answer⟩
  | ⟨.removeNetwork _, answer⟩ | ⟨.copyImagesToVolume _ _, answer⟩ | ⟨.exec _ _, answer⟩
  | ⟨.kubernetesConnect _, answer⟩ | ⟨.helmInstall _, answer⟩ | ⟨.helmUninstall _ _ _, answer⟩
  | ⟨.nomadReady _, answer⟩ | ⟨.createDirectories _, answer⟩ | ⟨.writeFile _ _, answer⟩
  | ⟨.removeTree _, answer⟩ | ⟨.pathExists _, answer⟩ | ⟨.allocatePorts _, answer⟩ =>
      answer.isOk = false
  | _ => False

/-- All calls but the last one succeeded, and all of them did if the whole is said to. Where the
whole failed, the last call may still have succeeded: a refusal of the program itself is no call. -/
def Exchanges.FailFast (log : Exchanges) (ok : Bool) : Prop :=
  (∀ x ∈ log.dropLast, ¬ x.Failed) ∧ (ok = true → ∀ x ∈ log, ¬ x.Failed)

namespace Exchanges.FailFast

variable {ok : Bool}

/-- Where nothing is asked nothing has failed, and this holds of a success and of a failure alike:
a refusal is a failure without a call. -/
theorem nil : FailFast [] ok := by simp [FailFast]

/-- One exchange may be a failure only if the outcome is one. -/
theorem single {x : Exchange Service.interface} (h : ok = true → ¬ x.Failed) : FailFast [x] ok := by
  refine ⟨by simp, fun hok y hy => ?_⟩
  obtain rfl := List.mem_singleton.mp hy
  exact h hok

/-- Exchanges that went well may come before others that are known to end with the first failure. -/
theorem append {first second : Exchanges} (hfirst : ∀ x ∈ first, ¬ x.Failed)
    (h : FailFast second ok) : FailFast (first ++ second) ok := by
  refine ⟨fun x hx => ?_, fun hok x hx => ?_⟩
  · -- The last call is that of the second part, if there is one.
    by_cases hsecond : second = []
    · rw [hsecond, List.append_nil] at hx
      exact hfirst x (List.dropLast_subset _ hx)
    · rw [List.dropLast_append_of_ne_nil hsecond] at hx
      exact (List.mem_append.mp hx).elim (hfirst x) (h.1 x)
  · exact (List.mem_append.mp hx).elim (hfirst x) (h.2 hok x)

/-- One exchange that went well may come first. This is `append` for a step that is a single
call. -/
theorem cons {x : Exchange Service.interface} {log : Exchanges} (hx : ¬ x.Failed)
    (h : FailFast log ok) : FailFast (x :: log) ok := by
  show FailFast ([x] ++ log) ok
  exact append (by simpa using hx) h

end Exchanges.FailFast

open Exchanges (FailFast)

namespace Poll

variable {policy : PollPolicy} {owner step : String} {Checks : Exchanges → Except Error Bool → Prop}
  {deadline : Duration}

/-- A wait is over when a check of it fails. By induction on its rounds: in each of them the check
comes first, and what follows it cannot fail. -/
theorem Waits.failFast (hchecks : ∀ own outcome, Checks own outcome → FailFast own outcome.isOk)
    {attempts : Nat} {log : Exchanges} {result : Except Error Unit}
    (h : Waits policy owner step Checks deadline attempts log result) :
    FailFast log result.isOk := by
  -- The clock, the pause and the question about a cancellation have no failures to give.
  have hgoing : ¬ (⟨.isCancelled, false⟩ : Exchange Service.interface).Failed := id
  have hnow : ∀ now, ¬ (⟨.now, now⟩ : Exchange Service.interface).Failed := fun _ => id
  have hpause : ∀ span cut, ¬ (⟨.pause span, cut⟩ : Exchange Service.interface).Failed :=
    fun _ _ => id
  induction h with
  | exhausted => exact .nil
  | stopped => exact .single fun _ => id
  | broken check => exact .cons hgoing (hchecks _ _ check)
  | held check => exact .cons hgoing (hchecks _ _ check)
  | late check => exact .cons hgoing (.append ((hchecks _ _ check).2 rfl) (.single fun _ => hnow _))
  | cut check =>
      exact .cons hgoing (.append ((hchecks _ _ check).2 rfl)
        (.cons (hnow _) (.single fun _ => hpause _ _)))
  | again check _ _ ih =>
      exact .cons hgoing (.append ((hchecks _ _ check).2 rfl)
        (.cons (hnow _) (.cons (hpause _ _) ih)))

/-- A wait is ended by the first check that fails. The checks before it did not fail, and the
clock and the pauses between them never do. -/
theorem Polls.failFast (hchecks : ∀ own outcome, Checks own outcome → FailFast own outcome.isOk)
    {log : Exchanges} {result : Except Error Unit}
    (h : Polls policy owner step Checks log result) : FailFast log result.isOk := by
  obtain ⟨deadline, later, rfl, hwait⟩ := h
  exact .cons id (hwait.failFast hchecks)

end Poll

/-- A failure keeps being one under another name, and a success is not changed. -/
theorem isOk_mapError {ε ε' α : Type} (f : ε → ε') (value : Except ε α) :
    (value.mapError f).isOk = value.isOk := by cases value <;> rfl

namespace Container

variable {settings : Settings} {c : Container} {id : String}

/-- Each step of creating a container ends with its first failure, since it is one call or a
wait. -/
theorem Step.Performs.failFast {step : Step} {log : Exchanges} {result : Except Error Unit}
    (h : step.Performs settings c id log result) : FailFast log result.isOk := by
  cases h with
  | blueprint | malformed => exact .nil
  | unknown | refused => exact .single fun hok => absurd hok Bool.false_ne_true
  | cached | created => exact .single fun _ => Bool.false_ne_true.symm
  | forced _ answer | attached _ answer | attachedShared _ answer | started answer =>
      rw [isOk_mapError]
      exact .single fun hok => by simp [Exchange.Failed, hok]
  | pulled _ answer =>
      rw [isOk_mapError]
      exact .cons Bool.false_ne_true.symm (.single fun hok => by simp [Exchange.Failed, hok])

end Container

end Moorage
