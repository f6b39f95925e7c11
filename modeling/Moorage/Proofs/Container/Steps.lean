import Moorage.Container.Lifecycle
import Moorage.Proofs.Container.Engine

/-!
# `Moorage.Proofs.Container.Steps`: the steps of creating a container

Creating a container is a sequence of steps: the image, the blueprint, the container
itself, one attachment after another, and the start. `Step.Performs` says which calls a
step makes and what it comes to, and `Goes` that steps are done in order up to the first
that fails; neither says anything of what happens then.

The list of all steps, `Step.all`, is written down on its own and depends on the configuration and
the settings alone. What the program calls is compared with it afterwards. A step has a
constructor for each way it can end, with the call and the failure in it, so the one thing that
a step leaves open is what the call was answered.

Each part of `Container.create` goes through steps of its own. Up to the container there is
no identity that could enter a step, so these steps are peeled off one by one
(`proceeds_cons_iff`); afterwards the parts are steps, or lists of them, as they stand
(`goes_bringUp_iff`).

* `yields_create_iff`: the whole function, as all steps in order, and a removal when one
  fails after the container was there.
-/

set_option autoImplicit false

namespace Moorage.Container

open Service (Call)
open Exchange (Quiet)

/-- The image of a container as it is asked for. What else is said of the image stays. -/
def canonicalImage (c : Container) : Image :=
  { c.spec.image with name := Image.canonical c.spec.image.name }

/-- The steps of creating a container. Declared networks are attached to one by one, and the
shared one after them. -/
inductive Step where
  | image
  | blueprint
  | create
  | attach (attachment : NetworkAttachment)
  | attachShared (network : String)
  | start
  deriving DecidableEq

variable {settings : Settings} {c : Container} {id : String}

namespace Step

/-- The steps up to the one that makes the container. Until then nothing has to be removed. -/
def making : List Step := [.image, .blueprint, .create]

/-- An attachment for every declared network in order, and one for the shared network if
there is one. -/
def attachments (settings : Settings) (c : Container) : List Step :=
  c.spec.networks.map .attach ++ settings.wanNetwork.toList.map .attachShared

/-- The steps that make a container, one by one. For telling apart a step that is known to be one
of them. -/
theorem mem_making {step : Step} :
    step ∈ making ↔ step = .image ∨ step = .blueprint ∨ step = .create := by
  simp [making]

/-- An attachment is one that was declared, or the one to the shared network. There may be no
shared network. -/
theorem mem_attachments {step : Step} :
    step ∈ attachments settings c ↔
      (∃ attachment ∈ c.spec.networks, step = .attach attachment) ∨
      ∃ network, settings.wanNetwork = some network ∧ step = .attachShared network := by
  simp [attachments, eq_comm]

/-- All steps in order. They are told without the program, which is proved to go through them. -/
def all (settings : Settings) (c : Container) : List Step :=
  making ++ (attachments settings c ++ [.start])

/-- The step makes the calls of the list, when they are answered as the list says, and
comes to the result. The identity is that of the container, which the step `create` gets
and later steps use. -/
inductive Performs (settings : Settings) (c : Container) (id : String) :
    Step → Exchanges → Except Error Unit → Prop
  /-- The image is pulled without a look at the cache. -/
  | forced (force : settings.forcePull = true) (answer : Except Error Unit) :
      Performs settings c id .image [⟨.pullImage c.canonicalImage, answer⟩]
        (answer.mapError (.provider c.owner "image pull"))
  | unknown (force : settings.forcePull = false) (error : Error) :
      Performs settings c id .image [⟨.imageExists c.canonicalImage.name, .error error⟩]
        (.error (.provider c.owner "image pull" error))
  | cached (force : settings.forcePull = false) :
      Performs settings c id .image [⟨.imageExists c.canonicalImage.name, .ok true⟩] (.ok ())
  | pulled (force : settings.forcePull = false) (answer : Except Error Unit) :
      Performs settings c id .image
        [⟨.imageExists c.canonicalImage.name, .ok false⟩, ⟨.pullImage c.canonicalImage, answer⟩]
        (answer.mapError (.provider c.owner "image pull"))
  | blueprint : Performs settings c id .blueprint [] ((Blueprint.ofContainer c).map fun _ => ())
  | created {blueprint : Blueprint} (spec : Blueprint.ofContainer c = .ok blueprint) :
      Performs settings c id .create [⟨.createContainer c.fqdn blueprint, .ok id⟩] (.ok ())
  | refused {blueprint : Blueprint} (spec : Blueprint.ofContainer c = .ok blueprint)
      (error : Error) :
      Performs settings c id .create [⟨.createContainer c.fqdn blueprint, .error error⟩]
        (.error (.provider c.owner "container create" error))
  /-- What is attached to is no network, and no call is made. -/
  | malformed {attachment : NetworkAttachment} {error : Error}
      (name : Target.networkName attachment.name = .error error) :
      Performs settings c id (.attach attachment) []
        (.error (.provider c.owner "network attach" error))
  | attached {attachment : NetworkAttachment} {network : String}
      (name : Target.networkName attachment.name = .ok network) (answer : Except Error Unit) :
      Performs settings c id (.attach attachment)
        [⟨.connectNetwork id network attachment.ipAddress attachment.aliases, answer⟩]
        (answer.mapError (.provider c.owner "network attach"))
  | attachedShared (network : String) (answer : Except Error Unit) :
      Performs settings c id (.attachShared network)
        [⟨.connectNetwork id network none [], answer⟩]
        (answer.mapError (.provider c.owner "network attach"))
  | started (answer : Except Error Unit) :
      Performs settings c id .start [⟨.startContainer id, answer⟩]
        (answer.mapError (.provider c.owner "container start"))

/-- Only the step that creates asks for a container, only the step that starts starts one,
and no step removes one. -/
theorem Performs.call_of_mem {step : Step} {log : Exchanges} {result : Except Error Unit}
    (h : Performs settings c id step log result) {x : Exchange Service.interface} (hx : x ∈ log) :
    match x.call with
    | .createContainer _ _ => step = .create
    | .startContainer _ => step = .start
    | .removeContainer _ => False
    | _ => True := by
  cases h <;> simp only [List.mem_cons, List.not_mem_nil, or_false] at hx <;>
    first | (obtain rfl := hx; trivial) | (rcases hx with rfl | rfl <;> trivial)

end Step

/-- Steps are done in order up to the first that fails: the exchanges of all of them, and
the failure if there is one. -/
inductive Goes (settings : Settings) (c : Container) (id : String) :
    List Step → Exchanges → Except Error Unit → Prop
  | done : Goes settings c id [] [] (.ok ())
  | failed {step : Step} {rest : List Step} {log : Exchanges} {error : Error}
      (here : step.Performs settings c id log (.error error)) :
      Goes settings c id (step :: rest) log (.error error)
  | passed {step : Step} {rest : List Step} {log log' : Exchanges} {result : Except Error Unit}
      (here : step.Performs settings c id log (.ok ()))
      (later : Goes settings c id rest log' result) :
      Goes settings c id (step :: rest) (log ++ log') result

/-- No steps make no calls and cannot fail. It is where an induction on the steps begins. -/
theorem goes_nil_iff {log : Exchanges} {result : Except Error Unit} :
    Goes settings c id [] log result ↔ log = [] ∧ result = .ok () := by
  constructor
  · intro h
    cases h
    exact ⟨rfl, rfl⟩
  · rintro ⟨rfl, rfl⟩
    exact .done

/-- The first step fails and is all that there is, or it succeeds and the rest follow. So a
failure is always that of the last step that was taken. -/
theorem goes_cons_iff {step : Step} {rest : List Step} {log : Exchanges}
    {result : Except Error Unit} :
    Goes settings c id (step :: rest) log result ↔
      (∃ error, step.Performs settings c id log (.error error) ∧ result = .error error) ∨
      ∃ first second, step.Performs settings c id first (.ok ()) ∧
        Goes settings c id rest second result ∧ log = first ++ second := by
  constructor
  · intro h
    cases h with
    | failed here => exact Or.inl ⟨_, here, rfl⟩
    | passed here later => exact Or.inr ⟨_, _, here, later, rfl⟩
  · rintro (⟨error, here, rfl⟩ | ⟨first, second, here, later, rfl⟩)
    · exact .failed here
    · exact .passed here later

/-- Steps that are done in two parts. The second part is not begun if the first fails. -/
theorem goes_append_iff {steps rest : List Step} {log : Exchanges}
    {result : Except Error Unit} :
    Goes settings c id (steps ++ rest) log result ↔
      (∃ error, Goes settings c id steps log (.error error) ∧ result = .error error) ∨
      ∃ first second, Goes settings c id steps first (.ok ()) ∧
        Goes settings c id rest second result ∧ log = first ++ second := by
  induction steps generalizing log with
  | nil => simp [goes_nil_iff]
  | cons step steps ih =>
      -- The first step fails for the whole, or what is left of the first part has to be split as
      -- before.
      rw [List.cons_append, goes_cons_iff]
      constructor
      · rintro (⟨error, here, rfl⟩ | ⟨first, second, here, later, rfl⟩)
        · exact Or.inl ⟨error, .failed here, rfl⟩
        · rcases ih.mp later with ⟨error, hsteps, rfl⟩ | ⟨middle, last, hsteps, hrest, rfl⟩
          · exact Or.inl ⟨error, .passed here hsteps, rfl⟩
          · exact Or.inr ⟨first ++ middle, last, .passed here hsteps, hrest,
              (List.append_assoc first middle last).symm⟩
      · rintro (⟨error, hsteps, rfl⟩ | ⟨front, last, hsteps, hrest, rfl⟩)
        · rcases goes_cons_iff.mp hsteps with
            ⟨error', here, heq⟩ | ⟨first, second, here, later, rfl⟩
          · exact Or.inl ⟨error', here, heq⟩
          · exact Or.inr ⟨first, second, here, ih.mpr (Or.inl ⟨error, later, rfl⟩), rfl⟩
        · rcases goes_cons_iff.mp hsteps with ⟨_, _, heq⟩ | ⟨first, second, here, later, rfl⟩
          · cases heq
          · have hlater := ih.mpr (Or.inr ⟨second, last, later, hrest, rfl⟩)
            exact Or.inr ⟨first, second ++ last, here, hlater,
              List.append_assoc first second last⟩

/-- A single step. -/
theorem goes_singleton_iff {step : Step} {log : Exchanges} {result : Except Error Unit} :
    Goes settings c id [step] log result ↔ step.Performs settings c id log result := by
  rw [goes_cons_iff]
  constructor
  · rintro (⟨error, here, rfl⟩ | ⟨first, second, here, later, rfl⟩)
    · exact here
    · obtain ⟨rfl, rfl⟩ := goes_nil_iff.mp later
      rwa [List.append_nil]
  · intro here
    cases result with
    | error error => exact Or.inl ⟨error, here, rfl⟩
    | ok value => exact Or.inr ⟨log, [], here, .done, (List.append_nil log).symm⟩

/-- Every exchange is one of some step. What holds of the exchanges of each step holds of all. -/
theorem Goes.exists_performs {steps : List Step} {log : Exchanges} {result : Except Error Unit}
    (h : Goes settings c id steps log result) {x : Exchange Service.interface} (hx : x ∈ log) :
    ∃ step ∈ steps, ∃ own outcome, step.Performs settings c id own outcome ∧ x ∈ own := by
  induction h with
  | done => cases hx
  | failed here => exact ⟨_, List.mem_cons_self, _, _, here, hx⟩
  | passed here _ ih =>
      rcases List.mem_append.mp hx with hx | hx
      · exact ⟨_, List.mem_cons_self, _, _, here, hx⟩
      · obtain ⟨step, hstep, hperforms⟩ := ih hx
        exact ⟨step, List.mem_cons_of_mem _ hstep, hperforms⟩

/-- Steps without the one that creates make and unmake no containers. None of the steps removes
anything. -/
theorem Goes.quiet {steps : List Step} {log : Exchanges} {result : Except Error Unit}
    (h : Goes settings c id steps log result) (hsteps : .create ∉ steps) : ∀ x ∈ log, Quiet x := by
  intro x hx
  obtain ⟨step, hstep, _, _, hperforms, hown⟩ := h.exists_performs hx
  have hcall := hperforms.call_of_mem hown
  unfold Exchange.Quiet
  split at hcall <;> simp_all

/-- Steps without the one that starts do not start the container. It is stated for any identity
and any answer. -/
theorem Goes.not_start {steps : List Step} {log : Exchanges} {result : Except Error Unit}
    (h : Goes settings c id steps log result) (hsteps : .start ∉ steps) (started : String)
    (answer : Except Error Unit) : ⟨.startContainer started, answer⟩ ∉ log := by
  intro hx
  obtain ⟨step, hstep, _, _, hperforms, hown⟩ := h.exists_performs hx
  have hcall : step = .start := hperforms.call_of_mem hown
  exact hsteps (hcall ▸ hstep)

/-! ### The exchanges of the parts -/

/-- Seeing to the image is the first step. It is a look whether the image is there, and a pull if
need be. -/
theorem performs_image_iff {log : Exchanges} {result : Except Error Unit} :
    Step.Performs settings c id .image log result ↔
      Action.Yields (Service.within c.owner "image pull" (ensureImage settings c.spec.image))
        log result := by
  rw [Action.yields_within_iff]
  -- Both sides look at the cache at most once and pull at most once.
  show _ ↔ ∃ outcome, Action.Yields
    (if settings.forcePull then Service.pullImage c.canonicalImage
      else Service.imageExists c.canonicalImage.name >>= fun cached =>
        if cached then pure () else Service.pullImage c.canonicalImage) log outcome ∧ _
  cases hforce : settings.forcePull with
  | true =>
      simp only [if_true, Action.yields_pullImage_iff]
      constructor
      · intro h
        cases h with
        | forced _ answer => exact ⟨answer, rfl, rfl⟩
        | _ => simp_all
      · rintro ⟨answer, rfl, rfl⟩
        exact .forced hforce answer
  | false =>
      simp only [Bool.false_eq_true, if_false, Action.yields_bind_iff,
        Action.yields_imageExists_iff]
      constructor
      · intro h
        cases h with
        | forced force _ => simp_all
        | unknown _ error => exact ⟨_, Or.inl ⟨error, rfl, rfl⟩, rfl⟩
        | cached _ =>
            exact ⟨_, Or.inr ⟨_, true, [], rfl, Action.yields_pure_iff.mpr ⟨rfl, rfl⟩, rfl⟩, rfl⟩
        | pulled _ answer =>
            exact ⟨_, Or.inr ⟨_, false, _, rfl, Action.yields_pullImage_iff.mpr rfl, rfl⟩, rfl⟩
      · rintro ⟨outcome, ⟨error, rfl, rfl⟩ | ⟨first, found, second, rfl, hrest, rfl⟩, rfl⟩
        · exact .unknown hforce error
        · cases found with
          | true =>
              obtain ⟨rfl, rfl⟩ := Action.yields_pure_iff.mp hrest
              exact .cached hforce
          | false =>
              obtain rfl := Action.yields_pullImage_iff.mp hrest
              exact .pulled hforce outcome

/-- The blueprint takes no calls. It can fail, though, and then nothing is to be removed. -/
theorem performs_blueprint_iff {log : Exchanges} {result : Except Error Unit} :
    Step.Performs settings c id .blueprint log result ↔
      log = [] ∧ result = (Blueprint.ofContainer c).map fun _ => () := by
  constructor
  · intro h
    cases h
    exact ⟨rfl, rfl⟩
  · rintro ⟨rfl, rfl⟩
    exact .blueprint

/-- Attaching to one network is one step. Its reference is read in this step, after the container
was made. -/
theorem performs_attach_iff {attachment : NetworkAttachment} {log : Exchanges}
    {result : Except Error Unit} :
    Step.Performs settings c id (.attach attachment) log result ↔
      Action.Yields (attachTo c.owner id attachment) log result := by
  unfold attachTo
  simp only [Action.yields_within_iff, Action.yields_bind_iff, Action.yields_mk_pure_iff,
    Action.yields_connectNetwork_iff]
  constructor
  · intro h
    cases h with
    | malformed hname => exact ⟨.error _, Or.inl ⟨_, ⟨rfl, hname.symm⟩, rfl⟩, rfl⟩
    | attached hname answer =>
        exact ⟨answer, Or.inr ⟨[], _, _, ⟨rfl, hname.symm⟩, rfl, rfl⟩, rfl⟩
  · rintro ⟨outcome, ⟨error, ⟨rfl, hname⟩, rfl⟩ | ⟨first, network, second, ⟨rfl, hname⟩, rfl, rfl⟩,
      rfl⟩
    · exact .malformed hname.symm
    · exact .attached hname.symm outcome

/-- The step is the call that the program makes for the shared network, put down to the owner. -/
theorem performs_attachShared_iff {network : String} {log : Exchanges}
    {result : Except Error Unit} :
    Step.Performs settings c id (.attachShared network) log result ↔
      Action.Yields (Service.within c.owner "network attach"
        (Service.connectNetwork id network none [])) log result := by
  simp only [Action.yields_within_iff, Action.yields_connectNetwork_iff]
  constructor
  · intro h
    cases h with
    | attachedShared _ answer => exact ⟨answer, rfl, rfl⟩
  · rintro ⟨answer, rfl, rfl⟩
    exact .attachedShared network answer

/-- The step is the call that starts the container, put down to the owner. -/
theorem performs_start_iff {log : Exchanges} {result : Except Error Unit} :
    Step.Performs settings c id .start log result ↔
      Action.Yields (Service.within c.owner "container start" (Service.startContainer id))
        log result := by
  simp only [Action.yields_within_iff, Action.yields_startContainer_iff]
  constructor
  · intro h
    cases h with
    | started answer => exact ⟨answer, rfl, rfl⟩
  · rintro ⟨answer, rfl, rfl⟩
    exact .started answer

/-- Attaching to networks in order goes through their steps. The first failure ends it. -/
theorem goes_attach_iff {networks : List NetworkAttachment} {log : Exchanges}
    {result : Except Error Unit} :
    Goes settings c id (networks.map .attach) log result ↔
      Action.Yields (attachToAll c.owner id networks) log result := by
  induction networks generalizing log result with
  | nil =>
      rw [List.map_nil, goes_nil_iff]
      exact Action.yields_pure_iff.symm
  | cons attachment networks ih =>
      rw [List.map_cons, goes_cons_iff]
      unfold attachToAll
      simp only [Action.yields_then_iff, performs_attach_iff, ih]

/-- Attaching to the shared network goes through its step, if there is one. Without a shared
network nothing is asked. -/
theorem goes_attachShared_iff {log : Exchanges} {result : Except Error Unit} :
    Goes settings c id (settings.wanNetwork.toList.map .attachShared) log result ↔
      Action.Yields (attachToShared settings c.owner id) log result := by
  unfold attachToShared
  cases settings.wanNetwork with
  | none =>
      simp only [Option.toList_none, List.map_nil, goes_nil_iff]
      exact Action.yields_pure_iff.symm
  | some network =>
      simp only [Option.toList_some, List.map_singleton, goes_singleton_iff,
        performs_attachShared_iff]

/-- Bringing a container up goes through the attachments and the start. It is put together of the
two laws before. -/
theorem goes_bringUp_iff {log : Exchanges} {result : Except Error Unit} :
    Goes settings c id (Step.attachments settings c ++ [.start]) log result ↔
      Action.Yields (bringUp settings c id) log result := by
  unfold Step.attachments bringUp
  simp only [List.append_assoc, goes_append_iff, goes_attach_iff, goes_attachShared_iff,
    goes_singleton_iff, performs_start_iff, Action.yields_then_iff]

/-- What follows a failure with the container there: it is removed once, and the failure
goes on, whatever becomes of the removal. -/
theorem yields_removal_iff {error : Error} {log : Exchanges} {result : Except Error Unit} :
    Action.Yields (tryCatch (Service.removeContainer id) (fun _ => pure ()) >>= fun _ =>
        throw error) log result ↔
      ∃ answer, log = [⟨.removeContainer id, answer⟩] ∧ result = .error error := by
  simp only [Action.yields_then_iff, Action.yields_tryCatch_iff, Action.yields_pure_iff,
    Action.yields_throw_iff, Action.yields_removeContainer_iff]
  constructor
  · -- A removal that fails is caught, so only the second part can be what fails.
    rintro (⟨_, ⟨_, _, ⟨⟩⟩ | ⟨_, _, _, _, ⟨_, ⟨⟩⟩, _⟩, _⟩ | ⟨first, _, hfirst, ⟨rfl, rfl⟩, rfl⟩)
    rcases hfirst with ⟨_, rfl, -⟩ | ⟨_, error', _, rfl, ⟨rfl, -⟩, rfl⟩
    · exact ⟨.ok (), rfl, rfl⟩
    · exact ⟨.error error', rfl, rfl⟩
  · rintro ⟨answer, rfl, rfl⟩
    refine Or.inr ⟨[⟨.removeContainer id, answer⟩], [], ?_, ⟨rfl, rfl⟩, rfl⟩
    cases answer with
    | ok value => exact Or.inl ⟨(), rfl, trivial⟩
    | error error' => exact Or.inr ⟨_, error', [], rfl, ⟨rfl, trivial⟩, rfl⟩

/-- The action runs, and its container is removed if it fails; the failure stays that of
the action. -/
theorem yields_orRemove_iff {action : Action Unit} {log : Exchanges}
    {result : Except Error Unit} :
    Action.Yields (orRemove id action) log result ↔
      (Action.Yields action log (.ok ()) ∧ result = .ok ()) ∨
      ∃ up error answer, Action.Yields action up (.error error) ∧
        log = up ++ [⟨.removeContainer id, answer⟩] ∧ result = .error error := by
  unfold orRemove
  rw [Action.yields_tryCatch_iff]
  constructor
  · rintro (⟨⟨⟩, hup, rfl⟩ | ⟨up, error, second, hup, hrest, rfl⟩)
    · exact Or.inl ⟨hup, rfl⟩
    · obtain ⟨answer, rfl, rfl⟩ := yields_removal_iff.mp hrest
      exact Or.inr ⟨up, error, answer, hup, rfl, rfl⟩
  · rintro (⟨hup, rfl⟩ | ⟨up, error, answer, hup, rfl, rfl⟩)
    · exact Or.inl ⟨(), hup, rfl⟩
    · exact Or.inr ⟨up, error, _, hup, yields_removal_iff.mpr ⟨answer, rfl, rfl⟩, rfl⟩

/-- What follows once the container is there: it is brought up, or removed again. The answer to
the removal is not looked at. -/
theorem yields_finish_iff {log : Exchanges} {result : Except Error String} :
    Action.Yields (orRemove id (bringUp settings c id) >>= fun _ => pure id) log result ↔
      (Goes settings c id (Step.attachments settings c ++ [.start]) log (.ok ()) ∧
        result = .ok id) ∨
      ∃ up error answer,
        Goes settings c id (Step.attachments settings c ++ [.start]) up (.error error) ∧
        log = up ++ [⟨.removeContainer id, answer⟩] ∧ result = .error error := by
  simp only [Action.yields_then_iff, yields_orRemove_iff, Action.yields_pure_iff, goes_bringUp_iff]
  constructor
  · rintro (⟨error, ⟨-, ⟨⟩⟩ | ⟨up, error', answer, hup, rfl, heq⟩, rfl⟩ |
      ⟨first, second, ⟨hup, -⟩ | ⟨_, _, _, _, _, ⟨⟩⟩, ⟨rfl, rfl⟩, rfl⟩)
    · cases heq
      exact Or.inr ⟨up, error, answer, hup, rfl, rfl⟩
    · rw [List.append_nil]
      exact Or.inl ⟨hup, rfl⟩
  · rintro (⟨hup, rfl⟩ | ⟨up, error, answer, hup, rfl, rfl⟩)
    · exact Or.inr ⟨log, [], Or.inl ⟨hup, trivial⟩, ⟨rfl, rfl⟩, (List.append_nil log).symm⟩
    · exact Or.inl ⟨error, Or.inr ⟨up, error, answer, hup, rfl, rfl⟩, rfl⟩

/-- Some steps are left until the container is there, and then it is finished. It stands for what
the program has yet to do in the middle of a creation. -/
def Proceeds (settings : Settings) (c : Container) (steps : List Step) (log : Exchanges)
    (result : Except Error String) : Prop :=
  (∃ id error, Goes settings c id steps log (.error error) ∧ result = .error error) ∨
  ∃ id made rest, Goes settings c id steps made (.ok ()) ∧
    Action.Yields (orRemove id (bringUp settings c id) >>= fun _ => pure id) rest result ∧
    log = made ++ rest

/-- A step before there is a container does not depend on its identity. So it can be taken off the
front, with any identity in its place. -/
theorem proceeds_cons_iff {step : Step} {steps : List Step} {log : Exchanges}
    {result : Except Error String}
    (hstep : ∀ id id' log result, step.Performs settings c id log result →
      step.Performs settings c id' log result) :
    Proceeds settings c (step :: steps) log result ↔
      (∃ error, step.Performs settings c "" log (.error error) ∧ result = .error error) ∨
      ∃ first second, step.Performs settings c "" first (.ok ()) ∧
        Proceeds settings c steps second result ∧ log = first ++ second := by
  unfold Proceeds
  simp only [goes_cons_iff]
  constructor
  · -- The step fails, or a later one does before the container is there, or it gets there.
    rintro (⟨id, error, ⟨_, here, heq⟩ | ⟨first, second, here, later, rfl⟩, rfl⟩ |
      ⟨id, _, rest, ⟨_, -, heq⟩ | ⟨first, second, here, later, rfl⟩, hfinish, rfl⟩)
    · cases heq
      exact Or.inl ⟨error, hstep _ _ _ _ here, rfl⟩
    · exact Or.inr ⟨first, second, hstep _ _ _ _ here, Or.inl ⟨id, error, later, rfl⟩, rfl⟩
    · cases heq
    · exact Or.inr ⟨first, second ++ rest, hstep _ _ _ _ here,
        Or.inr ⟨id, second, rest, later, hfinish, rfl⟩, List.append_assoc first second rest⟩
  · rintro (⟨error, here, rfl⟩ | ⟨first, _, here, ⟨id, error, later, rfl⟩ |
      ⟨id, second, rest, later, hfinish, rfl⟩, rfl⟩)
    · exact Or.inl ⟨"", error, Or.inl ⟨error, here, rfl⟩, rfl⟩
    · exact Or.inl ⟨id, error, Or.inr ⟨first, _, hstep _ _ _ _ here, later, rfl⟩, rfl⟩
    · exact Or.inr ⟨id, first ++ second, rest,
        Or.inr ⟨first, second, hstep _ _ _ _ here, later, rfl⟩, hfinish,
        (List.append_assoc first second rest).symm⟩

/-- With a blueprint, the container is asked for and finished. Its identity is the engine's
answer. -/
theorem proceeds_create_iff {blueprint : Blueprint}
    (hspec : Blueprint.ofContainer c = .ok blueprint) {log : Exchanges}
    {result : Except Error String} :
    Proceeds settings c [.create] log result ↔
      Action.Yields (Service.within c.owner "container create"
        (Service.createContainer c.fqdn blueprint) >>= fun id =>
          orRemove id (bringUp settings c id) >>= fun _ => pure id) log result := by
  unfold Proceeds
  simp only [goes_singleton_iff]
  constructor
  -- From the steps: the one step has a blueprint, and there is only this one.
  · rintro (⟨id, error, here, rfl⟩ | ⟨id, made, rest, here, hfinish, rfl⟩)
    · cases here with
      | refused hspec' cause =>
          cases hspec.symm.trans hspec'
          refine Action.yields_bind_iff.mpr (Or.inl ⟨_, Action.yields_within_iff.mpr ?_, rfl⟩)
          exact ⟨.error cause, Action.yields_createContainer_iff.mpr rfl, rfl⟩
    · cases here with
      | created hspec' =>
          cases hspec.symm.trans hspec'
          refine Action.yields_bind_iff.mpr
            (Or.inr ⟨_, id, rest, Action.yields_within_iff.mpr ?_, hfinish, rfl⟩)
          exact ⟨.ok id, Action.yields_createContainer_iff.mpr rfl, rfl⟩
  -- From the program: the answer to the call decides between the two ways to proceed.
  · intro h
    rcases Action.yields_bind_iff.mp h with ⟨error, hfail, rfl⟩ | ⟨_, id, rest, hmade, hfinish, rfl⟩
    · obtain ⟨answer, hlog, heq⟩ := Action.yields_within_iff.mp hfail
      obtain rfl := Action.yields_createContainer_iff.mp hlog
      cases answer with
      | ok id => cases heq
      | error cause =>
          cases heq
          exact Or.inl ⟨"", _, .refused hspec cause, rfl⟩
    · obtain ⟨answer, hlog, heq⟩ := Action.yields_within_iff.mp hmade
      obtain rfl := Action.yields_createContainer_iff.mp hlog
      cases answer with
      | ok id =>
          cases heq
          exact Or.inr ⟨id, _, rest, .created hspec, hfinish, rfl⟩
      | error cause => cases heq

/-- The image and the blueprint are seen to first. From here on the program and its steps are the
same thing. -/
theorem proceeds_making_iff {log : Exchanges} {result : Except Error String} :
    Proceeds settings c Step.making log result ↔
      Action.Yields (create settings c) log result := by
  have himage : ∀ id id' log result, Step.Performs settings c id .image log result →
      Step.Performs settings c id' .image log result := fun id id' log result h =>
    performs_image_iff.mpr (performs_image_iff.mp h)
  have hblueprint : ∀ id id' log result, Step.Performs settings c id .blueprint log result →
      Step.Performs settings c id' .blueprint log result := fun id id' log result h =>
    performs_blueprint_iff.mpr (performs_blueprint_iff.mp h)
  unfold Step.making create
  rw [proceeds_cons_iff himage, Action.yields_then_iff]
  simp only [performs_image_iff]
  -- The image is the first part on both sides; what is left are the other two steps.
  refine or_congr Iff.rfl (exists_congr fun first => exists_congr fun second =>
    and_congr_right fun _ => and_congr_left fun _ => ?_)
  rw [proceeds_cons_iff hblueprint, Action.yields_bind_iff]
  simp only [performs_blueprint_iff, Action.yields_mk_pure_iff]
  cases hspec : Blueprint.ofContainer c with
  | error refusal => simp [Except.map]
  | ok blueprint =>
      simp only [Except.map, proceeds_create_iff hspec]
      constructor
      · rintro (⟨_, ⟨-, heq⟩, -⟩ | ⟨_, rest, ⟨rfl, -⟩, hrest, rfl⟩)
        · cases heq
        · exact Or.inr ⟨[], blueprint, second, ⟨rfl, rfl⟩, hrest, rfl⟩
      · rintro (⟨_, ⟨-, heq⟩, -⟩ | ⟨_, _, rest, ⟨rfl, heq⟩, hrest, rfl⟩)
        · cases heq
        · cases heq
          exact Or.inr ⟨[], second, ⟨rfl, trivial⟩, hrest, rfl⟩

/-- The exchanges and the result of creating a container: all steps succeed, or one of the
first fails, or a later one does and the container is removed. -/
theorem yields_create_iff {log : Exchanges} {result : Except Error String} :
    Action.Yields (create settings c) log result ↔
      (∃ id, Goes settings c id (Step.all settings c) log (.ok ()) ∧ result = .ok id) ∨
      (∃ id error, Goes settings c id Step.making log (.error error) ∧ result = .error error) ∨
      ∃ id made up error answer, Goes settings c id Step.making made (.ok ()) ∧
        Goes settings c id (Step.attachments settings c ++ [.start]) up (.error error) ∧
        log = made ++ (up ++ [⟨.removeContainer id, answer⟩]) ∧ result = .error error := by
  rw [← proceeds_making_iff]
  unfold Proceeds Step.all
  simp only [yields_finish_iff]
  constructor
  · rintro (hmaking | ⟨id, made, rest, hmade, hfinish, rfl⟩)
    · exact Or.inr (Or.inl hmaking)
    · rcases hfinish with ⟨hup, rfl⟩ | ⟨up, error, answer, hup, rfl, rfl⟩
      · exact Or.inl ⟨id, goes_append_iff.mpr (Or.inr ⟨made, rest, hmade, hup, rfl⟩), rfl⟩
      · exact Or.inr (Or.inr ⟨id, made, up, error, answer, hmade, hup, rfl, rfl⟩)
  · rintro (⟨id, hall, rfl⟩ | hmaking | ⟨id, made, up, error, answer, hmade, hup, rfl, rfl⟩)
    · rcases goes_append_iff.mp hall with ⟨_, -, heq⟩ | ⟨made, up, hmade, hup, rfl⟩
      · cases heq
      · exact Or.inr ⟨id, made, up, hmade, Or.inl ⟨hup, rfl⟩, rfl⟩
    · exact Or.inl hmaking
    · exact Or.inr ⟨id, made, _, hmade, Or.inr ⟨up, error, answer, hup, rfl, rfl⟩, rfl⟩

end Moorage.Container
