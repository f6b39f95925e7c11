import Mathlib.Data.List.Basic
import Moorage.Proofs.Container.Steps

/-!
# `Moorage.Proofs.Container.Create`: a container is created entirely or not at all

`Transactional` collects what creating a container guarantees of its calls and of its
result. All of it is read off the steps: only the step `create` asks for a container, no
step removes one, and a removal follows exactly when a step behind `create` fails. For the
containers there are four courses that this can take, `Course`.

The courses are those of failing before the container was asked for, of its being refused, of its
being made and removed after a failure, and of success. A removal is tried once, and its outcome is
not reported. So a failure may leave the container behind if its removal failed as well. That case
is excluded where the containers are compared, by what was answered to the removal, and nothing else
is assumed there but that an engine does what it promises.

* `course_of_yields`: creating takes one of the courses.
* `Course.containers_eq`: what a failure leaves behind on an engine that keeps its word.
* `transactional_of_yields`: the guarantees, for any answers.
* `create_transactional`: both, for runs against an engine with any state.
-/

set_option autoImplicit false

namespace Moorage.Container

open Service (Call)
open Exchange (Quiet Replays)
open Exchanges

variable {settings : Settings} {c : Container} {id : String}

/-- When making a container succeeds, it was asked for last and is there. Before that, only its
image was seen to. -/
theorem Goes.made {log : Exchanges} (h : Goes settings c id Step.making log (.ok ())) :
    ∃ first blueprint, (∀ x ∈ first, Quiet x) ∧
      log = first ++ [⟨.createContainer c.fqdn blueprint, .ok id⟩] := by
  have hsplit : Goes settings c id ([.image, .blueprint] ++ [.create]) log (.ok ()) := h
  rcases goes_append_iff.mp hsplit with ⟨_, -, heq⟩ | ⟨first, second, hfirst, hcreate, rfl⟩
  · cases heq
  · rw [goes_singleton_iff] at hcreate
    cases hcreate with
    | created _ => exact ⟨first, _, hfirst.quiet (by decide), rfl⟩

/-- When making a container fails, it was not asked for, or it was refused. In both cases there is
none. -/
theorem Goes.unmade {log : Exchanges} {error : Error}
    (h : Goes settings c id Step.making log (.error error)) :
    (∀ x ∈ log, Quiet x) ∨ ∃ first blueprint refusal, (∀ x ∈ first, Quiet x) ∧
      log = first ++ [⟨.createContainer c.fqdn blueprint, .error refusal⟩] := by
  have hsplit : Goes settings c id ([.image, .blueprint] ++ [.create]) log (.error error) := h
  rcases goes_append_iff.mp hsplit with ⟨_, hfirst, -⟩ | ⟨first, second, hfirst, hcreate, rfl⟩
  · exact Or.inl (hfirst.quiet (by decide))
  · rw [goes_singleton_iff] at hcreate
    cases hcreate with
    | refused _ refusal => exact Or.inr ⟨first, _, refusal, hfirst.quiet (by decide), rfl⟩

/-- The steps of bringing a container up make and unmake no containers. A removal after them is no
step. -/
theorem Goes.quiet_of_bringUp {log : Exchanges} {result : Except Error Unit}
    (h : Goes settings c id (Step.attachments settings c ++ [.start]) log result) :
    ∀ x ∈ log, Quiet x :=
  h.quiet (by simp [Step.attachments])

/-! ### The courses that a creation takes -/

/-- The courses that creating a container can take, as far as containers come and go. What is
asked in between is left open. -/
inductive Course (c : Container) : Exchanges → Except Error String → Prop
  /-- It failed before the container was asked for. -/
  | early {log : Exchanges} {error : Error} (quiet : ∀ x ∈ log, Quiet x) :
      Course c log (.error error)
  | refused {first : Exchanges} {blueprint : Blueprint} {refusal error : Error}
      (quiet : ∀ x ∈ first, Quiet x) :
      Course c (first ++ [⟨.createContainer c.fqdn blueprint, .error refusal⟩]) (.error error)
  | up {first later : Exchanges} {blueprint : Blueprint} {id : String}
      (quiet : ∀ x ∈ first, Quiet x) (quiet_later : ∀ x ∈ later, Quiet x) :
      Course c (first ++ [⟨.createContainer c.fqdn blueprint, .ok id⟩] ++ later) (.ok id)
  /-- It failed with the container there, which was then to be removed. -/
  | undone {first later : Exchanges} {blueprint : Blueprint} {id : String} {error : Error}
      {answer : Except Error Unit} (quiet : ∀ x ∈ first, Quiet x)
      (quiet_later : ∀ x ∈ later, Quiet x) :
      Course c (first ++ [⟨.createContainer c.fqdn blueprint, .ok id⟩] ++
        (later ++ [⟨.removeContainer id, answer⟩])) (.error error)

/-- Creating a container takes one of the courses. Everything that is said of its containers comes
from here. -/
theorem course_of_yields {log : Exchanges} {result : Except Error String}
    (h : Action.Yields (create settings c) log result) : Course c log result := by
  rcases yields_create_iff.mp h with ⟨id, hall, rfl⟩ | ⟨id, error, hmaking, rfl⟩ |
    ⟨id, made, later, error, answer, hmade, hlater, rfl, rfl⟩
  · rcases goes_append_iff.mp hall with ⟨_, -, heq⟩ | ⟨made, later, hmade, hlater, rfl⟩
    · cases heq
    · obtain ⟨first, blueprint, hquiet, rfl⟩ := hmade.made
      exact .up hquiet hlater.quiet_of_bringUp
  · rcases hmaking.unmade with hquiet | ⟨first, blueprint, refusal, hquiet, rfl⟩
    · exact .early hquiet
    · exact .refused hquiet
  · obtain ⟨first, blueprint, hquiet, rfl⟩ := hmade.made
    exact .undone hquiet hlater.quiet_of_bringUp

namespace Course

variable {log : Exchanges} {result : Except Error String}

/-- A container is asked for at most once. There is no second attempt, whatever the failure. -/
theorem creations_le (h : Course c log result) : creations log ≤ 1 := by
  cases h with
  | early hquiet =>
      rw [creations_of_quiet hquiet]
      exact Nat.zero_le 1
  | refused hquiet =>
      rw [creations_append, creations_of_quiet hquiet]
      exact Nat.le_refl 1
  | up hquiet hlater | undone hquiet hlater =>
      simp only [creations_append, creations_of_quiet hquiet, creations_of_quiet hlater]
      exact Nat.le_refl 1

/-- Nothing is removed when the result is a container, and what was created is removed when
the result is a failure. -/
theorem removedIds_eq (h : Course c log result) :
    removedIds log = match result with
      | .ok _ => []
      | .error _ => createdIds log := by
  cases h with
  | early hquiet => exact (removedIds_of_quiet hquiet).trans (createdIds_of_quiet hquiet).symm
  | refused hquiet =>
      simp only [removedIds_append, createdIds_append, removedIds_of_quiet hquiet,
        createdIds_of_quiet hquiet]
      rfl
  | up hquiet hlater =>
      simp only [removedIds_append, removedIds_of_quiet hquiet, removedIds_of_quiet hlater]
      rfl
  | undone hquiet hlater =>
      simp only [removedIds_append, createdIds_append, removedIds_of_quiet hquiet,
        createdIds_of_quiet hquiet, removedIds_of_quiet hlater, createdIds_of_quiet hlater]
      rfl

/-- A failure leaves the containers as they were, unless the removal failed too. Then the
container stays, and carries its name. -/
theorem containers_eq {error : Error} (h : Course c log (.error error))
    {before after : Containers} (hreplays : Replays Containers.Effect before log after)
    (hremoval : ∀ id cause, ⟨.removeContainer id, .error cause⟩ ∉ log) : after = before := by
  cases h with
  | early hquiet => exact eq_of_replays hquiet hreplays
  | refused hquiet =>
      obtain ⟨between, hfirst, hlast⟩ := Exchange.replays_append_iff.mp hreplays
      obtain ⟨_, hrefused, hnil⟩ := Exchange.replays_cons_iff.mp hlast
      obtain rfl := Exchange.replays_nil_iff.mp hnil
      exact Eq.trans hrefused (eq_of_replays hquiet hfirst)
  | @undone _ _ _ id _ answer hquiet hlater =>
      cases answer with
      | error cause => exact absurd (by simp) (hremoval id cause)
      | ok _ =>
          simp only [Exchange.replays_append_iff, Exchange.replays_cons_iff,
            Exchange.replays_nil_iff] at hreplays
          obtain ⟨_, ⟨_, hfirst, _, ⟨hfresh, hmade⟩, rfl⟩, there, hlast, gone, hremoved, rfl⟩ :=
            hreplays
          obtain rfl := eq_of_replays hquiet hfirst
          obtain rfl := eq_of_replays hlater hlast
          -- The new identity was free, so taking it away again changes nothing.
          have hgone : gone = Function.update there id none := hremoved
          rw [hgone, hmade, Function.update_idem, ← hfresh, Function.update_eq_self]

end Course

/-! ### What is guaranteed -/

/-- What creating a container guarantees of its calls and of its result. It speaks of one run,
with whatever answers the engine gave. -/
structure Transactional (settings : Settings) (c : Container) (log : Exchanges)
    (result : Except Error String) : Prop where
  /-- A container is asked for at most once. -/
  creations_le : creations log ≤ 1
  createdIds_le : (createdIds log).length ≤ 1
  /-- Nothing is removed when the result is a container. -/
  removedIds_of_ok : ∀ id, result = .ok id → removedIds log = []
  /-- When the result is a failure, what was created is removed, and nothing else. -/
  removedIds_of_error : ∀ error, result = .error error → removedIds log = createdIds log
  /-- Success means that every step succeeded, in order. -/
  ok_iff : ∀ id, result = .ok id ↔ Goes settings c id (Step.all settings c) log (.ok ())
  /-- The start comes after everything else succeeded, all attachments included. -/
  started_last : ∀ before id answer after,
    log = before ++ ⟨.startContainer id, answer⟩ :: after →
      Goes settings c id (Step.making ++ Step.attachments settings c) before (.ok ())
  /-- The failure is that of the first step that fails, and only a removal follows it. -/
  error_eq : ∀ error, result = .error error → ∃ id up rollback,
    Goes settings c id (Step.all settings c) up (.error error) ∧ log = up ++ rollback ∧
    ∀ x ∈ rollback, ∃ answer, x = ⟨.removeContainer id, answer⟩

/-- All steps, whatever they come to, and then removals of the container. The steps go until the
first that fails. -/
theorem exists_goes_of_yields {log : Exchanges} {result : Except Error String}
    (h : Action.Yields (create settings c) log result) :
    ∃ id up outcome rollback, Goes settings c id (Step.all settings c) up outcome ∧
      log = up ++ rollback ∧ result = outcome.map (fun _ => id) ∧
      (outcome = .ok () → rollback = []) ∧
      ∀ x ∈ rollback, ∃ answer, x = ⟨.removeContainer id, answer⟩ := by
  rcases yields_create_iff.mp h with ⟨id, hall, rfl⟩ | ⟨id, error, hmaking, rfl⟩ |
    ⟨id, made, up, error, answer, hmade, hup, rfl, rfl⟩
  · exact ⟨id, log, _, [], hall, (List.append_nil log).symm, rfl, fun _ => rfl, by simp⟩
  · have hall : Goes settings c id (Step.all settings c) log (.error error) :=
      goes_append_iff.mpr (Or.inl ⟨error, hmaking, rfl⟩)
    exact ⟨id, log, _, [], hall, (List.append_nil log).symm, rfl, fun _ => rfl, by simp⟩
  · have hall := goes_append_iff.mpr (Or.inr ⟨made, up, hmade, hup, rfl⟩)
    exact ⟨id, _, _, _, hall, (List.append_assoc _ _ _).symm, rfl, nofun, by simp⟩

/-- The container is started when all steps but the start have succeeded. So a start in the log
tells that everything before it went well. -/
theorem Goes.started_last {up rollback before after : Exchanges} {outcome : Except Error Unit}
    (h : Goes settings c id (Step.all settings c) up outcome)
    (hrollback : ∀ x ∈ rollback, ∃ answer, x = ⟨.removeContainer id, answer⟩) {started : String}
    {answer : Except Error Unit}
    (hlog : up ++ rollback = before ++ ⟨.startContainer started, answer⟩ :: after) :
    Goes settings c started (Step.making ++ Step.attachments settings c) before (.ok ()) := by
  have hsteps : .start ∉ Step.making ++ Step.attachments settings c := by
    simp [Step.making, Step.attachments]
  have hnone : ⟨.startContainer started, answer⟩ ∉ rollback := by
    intro hmem
    obtain ⟨answer', heq⟩ := hrollback _ hmem
    cases heq
  unfold Step.all at h
  rw [← List.append_assoc, goes_append_iff] at h
  rcases h with ⟨error, hfirst, -⟩ | ⟨first, second, hfirst, hstart, rfl⟩
  · -- A step before the start failed, so there is no start.
    have hmem : ⟨.startContainer started, answer⟩ ∈ up ++ rollback := by
      rw [hlog]
      exact List.mem_append_right _ List.mem_cons_self
    rcases List.mem_append.mp hmem with hmem | hmem
    · exact absurd hmem (hfirst.not_start hsteps started answer)
    · exact absurd hmem hnone
  · rw [goes_singleton_iff] at hstart
    cases hstart with
    | started own =>
        rw [List.append_assoc, List.singleton_append,
          List.append_cons_inj_of_notMem (hfirst.not_start hsteps started answer) hnone] at hlog
        obtain ⟨rfl, heq, -⟩ := hlog
        cases heq
        exact hfirst

/-- Creating a container is transactional, whatever the engine answers. The parts come from its
course and from its steps. -/
theorem transactional_of_yields {log : Exchanges} {result : Except Error String}
    (h : Action.Yields (create settings c) log result) : Transactional settings c log result := by
  have hcourse := course_of_yields h
  obtain ⟨id, up, outcome, rollback, hall, hlog, hresult, hnone, hrollback⟩ :=
    exists_goes_of_yields h
  refine
    { creations_le := hcourse.creations_le
      createdIds_le := Nat.le_trans (length_createdIds_le log) hcourse.creations_le
      removedIds_of_ok := fun started hok => ?_
      removedIds_of_error := fun error herror => ?_
      ok_iff := fun started => ⟨fun hok => ?_, fun hok => ?_⟩
      started_last := fun before started answer after hsplit => ?_
      error_eq := fun error herror => ?_ }
  · rw [hok] at hcourse
    exact hcourse.removedIds_eq
  · rw [herror] at hcourse
    exact hcourse.removedIds_eq
  · cases outcome with
    | ok value =>
        cases hok.symm.trans hresult
        rw [hlog, hnone rfl, List.append_nil]
        exact hall
    | error error => cases hok.symm.trans hresult
  · -- The answers determine the result, and these lead to success.
    exact h.unique (yields_create_iff.mpr (Or.inl ⟨started, hok, rfl⟩))
  · exact hall.started_last hrollback (hlog.symm.trans hsplit)
  · cases outcome with
    | ok value => cases herror.symm.trans hresult
    | error error' =>
        cases herror.symm.trans hresult
        exact ⟨id, up, rollback, hall, hlog, hrollback⟩

/-- Creating a container on any engine is transactional, and a failure leaves the containers
of an engine that keeps its word as they were, unless the removal failed too. -/
theorem create_transactional {σ : Type}
    (answer : (call : Call) → σ → Service.Answer call × σ) (settings : Settings)
    (c : Container) (s : σ) :
    Transactional settings c ((create settings c).run.trace answer s)
      ((create settings c).run.run answer s).1 ∧
    ∀ containers : σ → Containers,
      (∀ call s, (containers s).Effect ⟨call, (answer call s).1⟩ (containers (answer call s).2)) →
      ∀ error, ((create settings c).run.run answer s).1 = .error error →
        (∀ id cause, ⟨.removeContainer id, .error cause⟩ ∉
          (create settings c).run.trace answer s) →
        containers ((create settings c).run.run answer s).2 = containers s := by
  have hyields := Program.yields_trace answer (create settings c).run s
  refine ⟨transactional_of_yields hyields, fun containers heffect error herror hremoval => ?_⟩
  have hreplays : Replays Containers.Effect (containers s)
      ((create settings c).run.trace answer s)
      (containers ((create settings c).run.run answer s).2) :=
    Program.replays_trace (I := Service.interface) answer heffect _ s
  rw [herror] at hyields
  exact (course_of_yields hyields).containers_eq hreplays hremoval

/-- The answer of surroundings that refuse everything. Others are made of it by granting
something. -/
def refuse : (call : Call) → Service.Answer call
  | .imageExists _ | .pullImage _ | .createContainer _ _ | .connectNetwork _ _ _ _
  | .startContainer _ | .removeContainer _ | .findContainers _ | .containerLogs _
  | .copyFromContainer _ _ | .createVolume _ | .createNetwork _ _ _ | .findNetworks _
  | .removeNetwork _ | .copyImagesToVolume _ _ | .exec _ _ | .kubernetesConnect _
  | .podsReady _ _ | .helmInstall _ | .helmUninstall _ _ _ | .nomadReady _
  | .allocatePorts _ => .error (.engine "call" (.reported "refused"))
  | .createDirectories _ | .writeFile _ _ | .removeTree _ | .pathExists _ => .error .missing
  | .isDirectory _ | .isCancelled | .pause _ => false
  | .freshToken => ""
  | .recordChild _ => ()
  | .now | .deadline _ => ⟨0⟩

/-- An engine that has all images and room for one container, which cannot be started. It does
what is asked as far as it can, and so keeps the promises of an engine. -/
def cramped : (call : Call) → Option Blueprint → Service.Answer call × Option Blueprint
  | .imageExists _, s => (.ok true, s)
  | .createContainer _ blueprint, none => (.ok "0", some blueprint)
  | .connectNetwork _ _ _ _, s => (.ok (), s)
  | .removeContainer "0", some _ => (.ok (), none)
  | call, s => (refuse call, s)

/-- The one container of the cramped engine. Its identity is `0`. -/
def onCramped (s : Option Blueprint) : Containers := fun id => if id = "0" then s else none

/-- The cramped engine keeps its word. So what is proved under the promise can be applied to it. -/
theorem effect_cramped (call : Call) (s : Option Blueprint) :
    (onCramped s).Effect ⟨call, (cramped call s).1⟩ (onCramped (cramped call s).2) := by
  unfold cramped
  split
  · rfl
  · refine ⟨rfl, funext fun id => ?_⟩
    by_cases hid : id = "0" <;> simp [onCramped, Function.update, hid]
  · rfl
  · refine funext fun id => ?_
    by_cases hid : id = "0" <;> simp [onCramped, Function.update, hid]
  · -- What is refused has no effect.
    cases call <;> first | rfl | trivial

/-- A container on a declared network. -/
def onNet : Container where
  owner := "container.web"
  fqdn := "web.container"
  name := "web"
  type := .container
  spec := { networks := [{ name := "network.net" }], image := { name := "web" } }

/-- The container is attached but cannot be started, so it is removed, and the engine is as
empty as it was. -/
theorem create_transactional_onNet :
    let settings := Settings.ofHome "/home"
    let log := (create settings onNet).run.trace cramped none
    let outcome := (create settings onNet).run.run cramped none
    (∃ error, outcome.1 = .error error) ∧
    (Exchanges.createdIds log = ["0"] ∧ Exchanges.removedIds log = ["0"]) ∧
    onCramped outcome.2 = onCramped none := by
  intro settings log outcome
  obtain ⟨htransactional, hcontainers⟩ := create_transactional cramped settings onNet none
  -- Everything is granted but the start.
  have herror : outcome.1 = .error (.provider "container.web" "container start"
    (.engine "call" (.reported "refused"))) := rfl
  have hlog : ∃ blueprint, log =
      [⟨.imageExists "web:latest", .ok true⟩, ⟨.createContainer "web.container" blueprint, .ok "0"⟩,
        ⟨.connectNetwork "0" "net" none [], .ok ()⟩, ⟨.connectNetwork "0" "wan" none [], .ok ()⟩,
        ⟨.startContainer "0", .error (.engine "call" (.reported "refused"))⟩,
        ⟨.removeContainer "0", .ok ()⟩] := ⟨_, rfl⟩
  refine ⟨⟨_, herror⟩, ⟨rfl, htransactional.removedIds_of_error _ herror⟩, ?_⟩
  refine hcontainers onCramped effect_cramped _ herror fun id cause hmem => ?_
  obtain ⟨blueprint, hlog⟩ := hlog
  have hmem' : (⟨.removeContainer id, .error cause⟩ : Exchange Service.interface) ∈ log := hmem
  rw [hlog] at hmem'
  simp only [List.mem_cons, List.not_mem_nil, or_false] at hmem'
  rcases hmem' with h | h | h | h | h | h <;> cases h

end Moorage.Container
