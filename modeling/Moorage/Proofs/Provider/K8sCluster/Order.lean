import Moorage.Proofs.Provider.K8sCluster.BringUp
import Moorage.Proofs.Service.FailFast

/-!
# `Moorage.Proofs.Provider.K8sCluster.Order`: what the creation of a cluster guarantees

That the steps of a creation follow one another up to the first that fails has consequences for
its calls, which `Ordered` collects. They are read off the steps: each sort of call that matters
here is made by one sort of step (`Step.Makes`), so where such a call stands all steps before
its own have succeeded (`Goes.before`).

The steps name the containers through the findings of a run and the functions of the program. To
say which containers a cluster is made of, the names that are asked for are also read off the calls,
`askedNames`, and compared with a list that is spelled out: the server, and one agent for each
number from one up to the number of nodes less one. A cluster that asks for no nodes or for less
than none has its server all the same.

What is removed is a matter of its own. A step that fails may be undone, and only the steps of a
container are, by the removal of that container. `Tidy` says of a sequence of steps that what it
removes was created by it before. It is closed under putting sequences one after the other, since
nothing is removed unless a step fails, and that is the end.

* `Goes.failFast`: a call that fails is the last, but for the removal of a container.
* `Goes.askedNames`: the containers that are asked for, in the order of the steps.
* `Tidy`: what is removed was created before.
* `create_ordered`: the guarantees, for runs in any surroundings.
-/

set_option autoImplicit false

namespace Moorage

open Exchanges (FailFast)
open Service (Call)

namespace Provider.K8sCluster

open Cluster.K3s (serverFqdn agentFqdn)
open Exchanges

variable {settings : Settings} {r : Resource}

/-- A look at the log fails with its one call. Whether the server is ready is another matter. -/
theorem Reports.failFast {id : String} {log : Exchanges} {result : Except Error Bool}
    (h : Reports r id log result) : FailFast log result.isOk := by
  obtain ⟨answer, rfl, rfl⟩ := h
  cases answer with
  | ok text => exact .single fun _ => Bool.false_ne_true.symm
  | error error => exact .single fun hok => absurd hok Bool.false_ne_true

/-- Pods that cannot be listed are not ready, so a check of them fails with no call. -/
theorem Settles.failFast {access : ClusterAccess} {log : Exchanges} {result : Except Error Bool}
    (h : Settles access log result) : FailFast log result.isOk := by
  obtain ⟨answer, rfl, rfl⟩ := h
  exact .single fun _ => id

/-- An image is looked up and pulled, and either failure ends it. -/
theorem Pulls.failFast {image : Image} {log : Exchanges} {result : Except Error Unit}
    (h : Pulls settings image log result) : FailFast log result.isOk := by
  cases h with
  | forced => exact .single fun hok => by simp [Exchange.Failed, hok]
  | unknown => exact .single fun hok => absurd hok Bool.false_ne_true
  | cached => exact .single fun _ => Bool.false_ne_true.symm
  | missing => exact .cons Bool.false_ne_true.symm (.single fun hok => by simp [Exchange.Failed, hok])

/-- A call that fails is the last of its step, and the step fails with it. There is one case for
each sort of step. -/
theorem Step.Performs.failFast {step : Step} {log : Exchanges} {result : Except Error Unit}
    (h : step.Performs settings r log result) : FailFast log result.isOk := by
  cases h with
  -- Steps without a call, steps whose one call fails or is not accepted, and steps whose call
  -- succeeds.
  | unreadable | unfit | rewritten => exact .nil
  | lookupFailed | portsFailed | copyFailed | connectFailed | stageFailed | importFailed =>
      exact .single fun hok => absurd hok Bool.false_ne_true
  | alreadyThere | portsShort | garbled | importRefused =>
      exact .single fun hok => absurd hok Bool.false_ne_true
  | absent | ports | copied | connected | staged | imported =>
      exact .single fun _ => Bool.false_ne_true.symm
  | token | record => exact .single fun _ => id
  | volume answer | directories _ answer | write _ _ answer =>
      cases answer with
      | ok value => exact .single fun _ => Bool.false_ne_true.symm
      | error error => exact .single fun hok => absurd hok Bool.false_ne_true
  -- The steps of a container, the waits and the pulls have laws of their own.
  | node own => exact own.failFast
  | ready wait => exact wait.failFast fun _ _ => Reports.failFast
  | settle wait => exact wait.failFast fun _ _ => Settles.failFast
  | pull own =>
      rw [isOk_mapError]
      exact own.failFast

/-- All calls of a run but the last one succeeded, up to the removal of a container. So a failure
is never passed over on the way up. -/
theorem Goes.failFast {steps : List Step} {log : Exchanges} {result : Except Error Unit}
    (h : Goes settings r steps log result) :
    ∃ up undo, log = up ++ undo ∧ FailFast up result.isOk ∧
      (undo = [] ∨ ∃ id answer, result.isOk = false ∧ undo = [⟨.removeContainer id, answer⟩]) := by
  induction h with
  | done => exact ⟨[], [], rfl, .nil, Or.inl rfl⟩
  | failed here undone =>
      refine ⟨_, _, rfl, here.failFast, undone.eq.imp_right ?_⟩
      rintro ⟨id, answer, heq⟩
      exact ⟨id, answer, rfl, heq⟩
  | passed here _ ih =>
      obtain ⟨up, undo, rfl, hup, hundo⟩ := ih
      exact ⟨_, undo, (List.append_assoc _ up undo).symm, .append (here.failFast.2 rfl) hup, hundo⟩

/-! ### Which step makes a call -/

/-- The calls that only one sort of step makes. By these a call in the log tells which step it
belongs to. -/
def Step.Makes (step : Step) : Call → Prop
  | .findContainers _ => step = .lookup
  | .createContainer name _ => ∃ c id, step = .node c id .create ∧ name = c.fqdn
  | .copyImagesToVolume images _ => ∃ archives, step = .stage images archives
  | .exec id command => ∃ archive, step = .importArchive id archive ∧
      command = ["ctr", "image", "import", archive]
  | .removeContainer _ => False
  | _ => True

/-- A step makes its own calls only. Of the sorts that matter here this names the step, and of all
others it says nothing. -/
theorem Step.Performs.makes {step : Step} {log : Exchanges} {result : Except Error Unit}
    (h : step.Performs settings r log result) : ∀ x ∈ log, step.Makes x.call := by
  cases h with
  | node own => cases own <;> simp [Step.Makes]
  | ready wait =>
      refine wait.forall_call trivial trivial (fun _ => trivial) ?_ trivial
      rintro own outcome ⟨answer, rfl, -⟩
      simp [Step.Makes]
  | settle wait =>
      refine wait.forall_call trivial trivial (fun _ => trivial) ?_ trivial
      rintro own outcome ⟨answer, rfl, -⟩
      simp [Step.Makes]
  | pull own => cases own <;> simp [Step.Makes]
  | _ => simp [Step.Makes]

/-- Every exchange is one of a step, or the removal that follows a failure. For calls that several
sorts of steps make this says nothing. -/
theorem Goes.exists_makes {steps : List Step} {log : Exchanges} {result : Except Error Unit}
    (h : Goes settings r steps log result) {x : Exchange Service.interface} (hx : x ∈ log) :
    (∃ step ∈ steps, step.Makes x.call) ∨ ∃ id, x.call = .removeContainer id := by
  induction h with
  | done => cases hx
  | failed here undone =>
      rcases List.mem_append.mp hx with hx | hx
      · exact Or.inl ⟨_, List.mem_cons_self, here.makes x hx⟩
      · rcases undone.eq with rfl | ⟨id, answer, rfl⟩
        · cases hx
        · exact Or.inr ⟨id, by rw [List.mem_singleton.mp hx]⟩
  | passed here _ ih =>
      rcases List.mem_append.mp hx with hx | hx
      · exact Or.inl ⟨_, List.mem_cons_self, here.makes x hx⟩
      · refine (ih hx).imp_left ?_
        rintro ⟨step, hstep, hmakes⟩
        exact ⟨step, List.mem_cons_of_mem _ hstep, hmakes⟩

/-- Before a call that none of the first steps makes, all of them have succeeded. All orders
between calls are told by this one lemma. -/
theorem Goes.before {first rest : List Step} {log : Exchanges} {result : Except Error Unit}
    (h : Goes settings r (first ++ rest) log result) {before after : Exchanges}
    {x : Exchange Service.interface} (hlog : log = before ++ x :: after)
    (hfirst : ∀ step ∈ first, ¬ step.Makes x.call) (hremoval : ∀ id, x.call ≠ .removeContainer id) :
    ∃ done later, Goes settings r first done (.ok ()) ∧ before = done ++ later := by
  -- No part of the first steps can hold the call, so they end before it.
  have hnone : ∀ own outcome, Goes settings r first own outcome → x ∉ own := by
    intro own outcome hgoes hx
    rcases hgoes.exists_makes hx with ⟨step, hstep, hmakes⟩ | ⟨id, hcall⟩
    · exact hfirst step hstep hmakes
    · exact hremoval id hcall
  rcases goes_append_iff.mp h with ⟨error, hgoes, -⟩ | ⟨done, later, hgoes, -, hsplit⟩
  · exact absurd (hlog ▸ by simp) (hnone log _ hgoes)
  · rw [hlog, List.append_eq_append_iff] at hsplit
    rcases hsplit with ⟨tail, hdone, htail⟩ | ⟨middle, hbefore, -⟩
    · cases tail with
      | nil => exact ⟨done, [], hgoes, by simpa using hdone.symm⟩
      | cons y tail =>
          obtain ⟨rfl, -⟩ := List.cons.inj htail
          exact absurd (hdone ▸ by simp) (hnone done _ hgoes)
    · exact ⟨done, middle, hgoes, hbefore⟩

/-! ### Which containers are asked for -/

/-- The name of the container that a call asks for. It counts whether the container was granted or
not. -/
def askedName? : Exchange Service.interface → Option String
  | ⟨.createContainer name _, _⟩ => some name
  | _ => none

/-- The names of the containers that are asked for, in the order of the calls. Whether a container
is granted does not matter. -/
def askedNames (log : Exchanges) : List String := log.filterMap askedName?

/-- The names asked for in two parts are those of the first and those of the second. -/
theorem askedNames_append (first second : Exchanges) :
    askedNames (first ++ second) = askedNames first ++ askedNames second := List.filterMap_append

/-- The name of the container that a step asks for. -/
def Step.askedName? : Step → Option String
  | .node c _ .create => some c.fqdn
  | _ => none

/-- A step asks for its container whether it succeeds or fails, and for no other one. Only the
step that creates asks for any. -/
theorem Step.Performs.askedNames_eq {step : Step} {log : Exchanges} {result : Except Error Unit}
    (h : step.Performs settings r log result) : askedNames log = step.askedName?.toList := by
  have hother (hnone : step.askedName? = none) : askedNames log = [] := by
    refine List.filterMap_eq_nil_iff.mpr fun x hx => ?_
    have hmakes := h.makes x hx
    obtain ⟨call, answer⟩ := x
    cases call with
    | createContainer name blueprint =>
        obtain ⟨c, id, rfl, -⟩ := hmakes
        cases hnone
    | _ => rfl
  cases h with
  | node own => cases own <;> rfl
  | _ => exact hother rfl

/-- What follows a failure asks for no container. It is a removal, if anything. -/
theorem Step.Undo.askedNames_eq {step : Step} {undo : Exchanges} (h : step.Undo undo) :
    askedNames undo = [] := by
  rcases h.eq with rfl | ⟨id, answer, rfl⟩
  · rfl
  · rfl

/-- The names that a sequence of steps asks for, one step at a time. -/
theorem filterMap_askedName?_cons (step : Step) (rest : List Step) :
    (step :: rest).filterMap Step.askedName? =
      step.askedName?.toList ++ rest.filterMap Step.askedName? := by
  rw [List.filterMap_cons]
  cases step.askedName? <;> rfl

/-- The containers that are asked for are those of the steps in their order: of all steps if these
succeed, and of the first ones if one fails. -/
theorem Goes.askedNames {steps : List Step} {log : Exchanges} {result : Except Error Unit}
    (h : Goes settings r steps log result) :
    askedNames log <+: steps.filterMap Step.askedName? ∧
      (result = .ok () → askedNames log = steps.filterMap Step.askedName?) := by
  induction h with
  | done => exact ⟨List.prefix_rfl, fun _ => rfl⟩
  | failed here undone =>
      rw [askedNames_append, here.askedNames_eq, undone.askedNames_eq, List.append_nil,
        filterMap_askedName?_cons]
      exact ⟨List.prefix_append _ _, nofun⟩
  | passed here _ ih =>
      rw [askedNames_append, here.askedNames_eq, filterMap_askedName?_cons]
      exact ⟨(List.prefix_append_right_inj _).mpr ih.1, fun hok => congrArg _ (ih.2 hok)⟩

/-- Of the steps of a node one asks for its container. It is the one that creates it. -/
theorem filterMap_askedName?_nodeSteps (c : Container) (id : String) :
    (nodeSteps settings c id).filterMap Step.askedName? = [c.fqdn] := by
  have hattached : ((Container.Step.attachments settings c).map (Step.node c id)).filterMap
      Step.askedName? = [] := by
    refine List.filterMap_eq_nil_iff.mpr fun step hstep => ?_
    obtain ⟨own, hown, rfl⟩ := List.mem_map.mp hstep
    rcases Container.Step.mem_attachments.mp hown with ⟨_, -, rfl⟩ | ⟨_, -, rfl⟩ <;> rfl
  simp only [nodeSteps, Container.Step.all, List.map_append, List.filterMap_append, hattached]
  rfl

/-- The agents are asked for in the order of their numbers, each by one step of its own. -/
theorem filterMap_askedName?_agentSteps (spec : ContainerSpec) (numbers : List Nat)
    (ids : List String) :
    (agentSteps settings r spec numbers ids).filterMap Step.askedName? =
      numbers.map (agentFqdn r) := by
  induction numbers generalizing ids with
  | nil => rfl
  | cons number numbers ih =>
      rw [agentSteps, List.filterMap_append, ih, filterMap_askedName?_nodeSteps]
      rfl

/-- All steps together ask for the server and for one agent for each other node. The names are
spelled out, with the numbers of the agents in order. -/
theorem filterMap_askedName?_steps (spec : K8sSpec) (f : Findings) :
    (steps settings r spec f).filterMap Step.askedName? =
      ("server." ++ r.fqdn) ::
        (List.range' 1 (max spec.nodes.toNat 1 - 1)).map fun number => s!"agent-{number}.{r.fqdn}" := by
  have hserver : (serverSteps settings r spec f).filterMap Step.askedName? = [serverFqdn r] := by
    rw [serverSteps, List.filterMap_append, List.filterMap_append,
      filterMap_askedName?_nodeSteps]
    rfl
  have hagents : (joinSteps settings r spec f).filterMap Step.askedName? =
      (List.range' 1 (max spec.nodes.toNat 1 - 1)).map (agentFqdn r) := by
    simp only [joinSteps, List.filterMap_append, filterMap_askedName?_agentSteps, List.append_assoc]
    -- None of the steps behind the agents asks for a container.
    exact List.append_nil _
  have himages : (imageSteps f.server spec.images f.archives).filterMap Step.askedName? = [] := by
    refine List.filterMap_eq_nil_iff.mpr fun step hstep => ?_
    rcases mem_imageSteps hstep with ⟨_, rfl⟩ | rfl | ⟨_, -, rfl⟩ <;> rfl
  rw [steps, List.filterMap_append, List.filterMap_append, hserver, hagents, himages,
    List.append_nil]
  rfl

/-! ### What is removed again -/

/-- No step removes a container. What is removed is removed when a step is undone, after its
failure. -/
theorem Step.Performs.removedIds_eq {step : Step} {log : Exchanges} {result : Except Error Unit}
    (h : step.Performs settings r log result) : removedIds log = [] := by
  refine List.filterMap_eq_nil_iff.mpr fun x hx => ?_
  have hmakes := h.makes x hx
  obtain ⟨call, answer⟩ := x
  cases call <;> first | rfl | exact hmakes.elim

/-- What is removed is removed after the failure of one of the steps. So a run that succeeds has
removed nothing. -/
theorem Goes.exists_undo {steps : List Step} {log : Exchanges} {result : Except Error Unit}
    (h : Goes settings r steps log result) {id : String} (hid : id ∈ removedIds log) :
    ∃ step ∈ steps, ∃ undo, step.Undo undo ∧ id ∈ removedIds undo := by
  induction h with
  | done => cases hid
  | failed here undone =>
      rw [removedIds_append, here.removedIds_eq] at hid
      exact ⟨_, List.mem_cons_self, _, undone, hid⟩
  | passed here _ ih =>
      rw [removedIds_append, here.removedIds_eq] at hid
      obtain ⟨step, hstep, hundo⟩ := ih hid
      exact ⟨step, List.mem_cons_of_mem _ hstep, hundo⟩

/-- Where all steps succeeded, each of them did. Its own exchanges are part of the log. -/
theorem Goes.performs_of_mem {steps : List Step} {log : Exchanges}
    (h : Goes settings r steps log (.ok ())) {step : Step} (hstep : step ∈ steps) :
    ∃ own, own ⊆ log ∧ step.Performs settings r own (.ok ()) := by
  induction steps generalizing log with
  | nil => cases hstep
  | cons first rest ih =>
      cases h with
      | passed here later =>
          rcases List.mem_cons.mp hstep with rfl | hstep
          · exact ⟨_, List.subset_append_left _ _, here⟩
          · obtain ⟨own, hown, hperforms⟩ := ih later hstep
            exact ⟨own, List.subset_append_of_subset_right _ hown, hperforms⟩

/-- However far the steps get, they remove only containers that they have created. This is asked
of all runs of the steps. -/
def Tidy (settings : Settings) (r : Resource) (steps : List Step) : Prop :=
  ∀ log result, Goes settings r steps log result → ∀ id ∈ removedIds log, id ∈ createdIds log

/-- Two sequences one after the other are tidy when both are: a removal in the second part is of a
container of that part, and one in the first part ends the run. -/
theorem Tidy.append {steps rest : List Step} (h : Tidy settings r steps)
    (hrest : Tidy settings r rest) : Tidy settings r (steps ++ rest) := by
  intro log result hgoes id hid
  rcases goes_append_iff.mp hgoes with ⟨error, hfirst, -⟩ | ⟨first, second, hfirst, hsecond, rfl⟩
  · exact h log _ hfirst id hid
  · rw [removedIds_append, List.mem_append] at hid
    rw [createdIds_append, List.mem_append]
    exact hid.imp (h first _ hfirst id) (hrest second result hsecond id)

/-- Steps that need not be undone remove nothing. These are all but the ones behind the creation
of a node. -/
theorem tidy_of_undo {steps : List Step}
    (h : ∀ step ∈ steps, ∀ undo, step.Undo undo → undo = []) : Tidy settings r steps := by
  intro log result hgoes id hid
  obtain ⟨step, hstep, undo, hundo, hid⟩ := hgoes.exists_undo hid
  rw [h step hstep undo hundo] at hid
  cases hid

/-- A node is created before it may have to be removed. Its creation is among the first of its
steps. -/
theorem tidy_nodeSteps (c : Container) (id : String) :
    Tidy settings r (nodeSteps settings c id) := by
  have hsplit : nodeSteps settings c id = Container.Step.making.map (.node c id) ++
      ((Container.Step.attachments settings c ++ [Container.Step.start]).map (.node c id) ++
        [.record c]) := by
    simp [nodeSteps, Container.Step.all]
  -- The steps up to the creation of the container leave nothing to be undone.
  have hmaking : Tidy settings r (Container.Step.making.map (.node c id)) :=
    tidy_of_undo (by simp [Container.Step.making, Step.Undo])
  intro log result hgoes gone hgone
  rw [hsplit] at hgoes
  rcases goes_append_iff.mp hgoes with ⟨error, hfirst, -⟩ | ⟨first, second, hfirst, hsecond, rfl⟩
  · exact hmaking log _ hfirst gone hgone
  rw [removedIds_append, List.mem_append] at hgone
  rw [createdIds_append, List.mem_append]
  refine Or.inl (hgone.elim (hmaking first _ hfirst gone) fun hgone => ?_)
  -- What is removed is the container of the node, and the steps before have created it.
  have hcreate : Step.node c id .create ∈ Container.Step.making.map (.node c id) := by
    simp [Container.Step.making]
  obtain ⟨own, hown, hperforms⟩ := hfirst.performs_of_mem hcreate
  have hcreated : id ∈ createdIds first := by
    cases hperforms with
    | node step =>
        cases step with
        | created => exact List.mem_filterMap.mpr ⟨_, hown List.mem_cons_self, rfl⟩
  obtain ⟨step, hstep, undo, hundo, hgone⟩ := hsecond.exists_undo hgone
  have hundone : undo = [] ∨ ∃ answer, undo = [⟨.removeContainer id, answer⟩] := by
    simp only [Container.Step.attachments, List.map_append, List.map_map, List.mem_append,
      List.mem_map, List.mem_singleton, Function.comp_apply, List.map_cons, List.map_nil] at hstep
    rcases hstep with ((⟨_, -, rfl⟩ | ⟨_, -, rfl⟩) | rfl) | rfl
    · exact Or.inr hundo
    · exact Or.inr hundo
    · exact Or.inr hundo
    · exact Or.inl hundo
  rcases hundone with rfl | ⟨answer, rfl⟩
  · cases hgone
  · obtain rfl : gone = id := List.mem_singleton.mp hgone
    exact hcreated

/-- Each agent is removed, if at all, after its own creation. By induction on the numbers. -/
theorem tidy_agentSteps (spec : ContainerSpec) (numbers : List Nat) (ids : List String) :
    Tidy settings r (agentSteps settings r spec numbers ids) := by
  induction numbers generalizing ids with
  | nil =>
      show Tidy settings r []
      exact tidy_of_undo fun _ hstep => absurd hstep List.not_mem_nil
  | cons number numbers ih => exact (tidy_nodeSteps _ _).append (ih _)

/-- All steps of a creation are tidy: those of nodes by themselves, and all others are never
undone. -/
theorem tidy_steps (spec : K8sSpec) (f : Findings) : Tidy settings r (steps settings r spec f) := by
  unfold steps serverSteps joinSteps copySteps
  -- Only the steps of nodes are undone by a removal.
  refine .append (.append (.append ?_ (tidy_nodeSteps _ _)) ?_) (.append ?_ ?_)
  · exact tidy_of_undo (by simp [Step.Undo])
  · exact tidy_of_undo (by simp [Step.Undo])
  · refine .append (.append (.append (.append (tidy_agentSteps _ _ _) ?_) ?_) ?_) ?_
    all_goals exact tidy_of_undo (by simp [Step.Undo])
  · refine tidy_of_undo fun step hstep undo hundo => ?_
    rcases mem_imageSteps hstep with ⟨_, rfl⟩ | rfl | ⟨_, -, rfl⟩ <;> exact hundo

/-! ### What comes before what -/

variable {spec : K8sSpec} {f : Findings}

/-- Of the nodes, the first steps create the server only. They hand over no images either. -/
theorem mem_serverSteps {step : Step} (h : step ∈ serverSteps settings r spec f) :
    (∀ images archives, step ≠ .stage images archives) ∧
    (∀ id archive, step ≠ .importArchive id archive) ∧
    ∀ c id own, step = .node c id own → c.fqdn = serverFqdn r := by
  simp only [serverSteps, nodeSteps, List.mem_append, List.mem_cons, List.not_mem_nil, or_false,
    List.mem_map] at h
  rcases h with ((rfl | rfl | rfl | rfl) | ⟨own, -, rfl⟩ | rfl) | rfl <;>
    simp [server, node]

/-- The steps that come after the server do not look it up again and hand over no images. -/
theorem mem_joinSteps {step : Step} (h : step ∈ joinSteps settings r spec f) :
    step ≠ .lookup ∧ (∀ images archives, step ≠ .stage images archives) ∧
    ∀ id archive, step ≠ .importArchive id archive := by
  simp only [joinSteps, copySteps, List.mem_append, List.mem_cons, List.not_mem_nil, or_false] at h
  rcases h with (((h | rfl | rfl) | rfl | rfl) | rfl | rfl) | rfl | rfl
  · rcases mem_agentSteps h with ⟨_, -, _, _, rfl⟩ | ⟨_, rfl⟩ <;> simp
  all_goals simp

/-- The server is looked up once, in the first step. So what the search found is never found
again. -/
theorem lookup_notMem_tail : Step.lookup ∉ (steps settings r spec f).tail := by
  intro h
  have htail : Step.lookup ∈ (serverSteps settings r spec f).tail ++
      (joinSteps settings r spec f ++ imageSteps f.server spec.images f.archives) := h
  rcases List.mem_append.mp htail with h | h
  · simp [serverSteps, nodeSteps] at h
  rcases List.mem_append.mp h with h | h
  · exact (mem_joinSteps h).1 rfl
  · rcases mem_imageSteps h with ⟨_, heq⟩ | heq | ⟨_, -, heq⟩ <;> cases heq

/-- A server that is ready has said so in its log. It is the last look of the wait that tells. -/
theorem Step.Performs.exists_report {id : String} {log : Exchanges}
    (h : (Step.ready id).Performs settings r log (.ok ())) :
    ∃ text, ⟨.containerLogs id, .ok text⟩ ∈ log ∧
      Text.occursIn Naming.k3sReadyMarker text = true := by
  cases h with
  | ready wait =>
      obtain ⟨deadline, later, rfl, hwait⟩ := wait
      obtain ⟨own, hown, answer, rfl, hanswer⟩ := hwait.exists_held
      cases answer with
      | error error => cases hanswer
      | ok text =>
          refine ⟨text, List.mem_cons_of_mem _ (hown.subset List.mem_cons_self), ?_⟩
          exact (Except.ok.inj hanswer).symm

/-- Pods that have settled were found ready. It is the last look of the wait that tells. -/
theorem Step.Performs.pods_ready {access : ClusterAccess} {log : Exchanges}
    (h : (Step.settle access).Performs settings r log (.ok ())) :
    ⟨.podsReady access "", .ok true⟩ ∈ log := by
  cases h with
  | settle wait =>
      obtain ⟨deadline, later, rfl, hwait⟩ := wait
      obtain ⟨own, hown, answer, rfl, hanswer⟩ := hwait.exists_held
      cases answer with
      | error error => cases hanswer
      | ok ready =>
          obtain rfl : ready = true := (Except.ok.inj hanswer).symm
          exact List.mem_cons_of_mem _ (hown.subset List.mem_cons_self)

/-- What the creation of a cluster guarantees of its calls and of its result. Calls are told by
themselves, and the nodes by their names. -/
structure Ordered (settings : Settings) (r : Resource) (spec : K8sSpec) (log : Exchanges)
    (result : Except Error Unit) : Prop where
  /-- A driver that there is not is refused before anything is asked. -/
  unsupported : spec.driver ≠ Cluster.K3s.driver →
    log = [] ∧ result = .error (.provider r.label "validate"
      (.config (.unsupportedDriver spec.driver)))
  /-- The steps are done in order, up to the first that fails. -/
  goes : spec.driver = Cluster.K3s.driver →
    ∃ f, Goes settings r (steps settings r spec f) log result
  /-- The containers that are asked for are the server and then the agents with the numbers from
  one up, which with the server make as many nodes as the cluster has. A failure cuts the list off,
  and a success means that all of them were asked for. -/
  nodes :
    askedNames log <+: ("server." ++ r.fqdn) ::
        (List.range' 1 (max spec.nodes.toNat 1 - 1)).map (fun number => s!"agent-{number}.{r.fqdn}") ∧
      (result = .ok () → askedNames log = ("server." ++ r.fqdn) ::
        (List.range' 1 (max spec.nodes.toNat 1 - 1)).map fun number => s!"agent-{number}.{r.fqdn}")
  /-- A call that fails is the last one, but for the removal of a container. -/
  failFast : ∃ up undo, log = up ++ undo ∧ up.FailFast result.isOk ∧
    (undo = [] ∨ ∃ id answer, result.isOk = false ∧ undo = [⟨.removeContainer id, answer⟩])
  /-- Only containers that were created are removed. -/
  removed : ∀ id ∈ removedIds log, id ∈ createdIds log
  /-- When the search for the server fails or finds one, it is the only call. -/
  searched : ∀ answer, ⟨.findContainers (serverFqdn r), answer⟩ ∈ log → answer ≠ .ok [] →
    log = [⟨.findContainers (serverFqdn r), answer⟩]
  /-- No other node is asked for until the server has said that it runs. -/
  ready_first : ∀ before name blueprint answer after,
    log = before ++ ⟨.createContainer name blueprint, answer⟩ :: after → name ≠ serverFqdn r →
      ∃ id text, ⟨.containerLogs id, .ok text⟩ ∈ before ∧
        Text.occursIn Naming.k3sReadyMarker text = true
  /-- No image is staged until the pods were ready. -/
  settled_first : ∀ before images volume answer after,
    log = before ++ ⟨.copyImagesToVolume images volume, answer⟩ :: after →
      ∃ access, ⟨.podsReady access "", .ok true⟩ ∈ before
  /-- A command runs only to hand over an archive that was staged. -/
  staged_first : ∀ before id command answer after,
    log = before ++ ⟨.exec id command, answer⟩ :: after →
      ∃ images volume archives archive,
        ⟨.copyImagesToVolume images volume, .ok archives⟩ ∈ before ∧ archive ∈ archives ∧
        command = ["ctr", "image", "import", archive]

/-- A search that fails or finds a server is all that there is. In both cases nothing has been
made. -/
theorem Goes.eq_search {log : Exchanges} {result : Except Error Unit}
    (h : Goes settings r (steps settings r spec f) log result) {answer : Except Error (List String)}
    (hx : ⟨.findContainers (serverFqdn r), answer⟩ ∈ log) (hfound : answer ≠ .ok []) :
    log = [⟨.findContainers (serverFqdn r), answer⟩] := by
  have hsteps : steps settings r spec f = .lookup :: (steps settings r spec f).tail := rfl
  rw [hsteps] at h
  cases h with
  | failed here undone =>
      obtain rfl := undone
      rw [List.append_nil] at hx ⊢
      cases here <;> rw [List.mem_singleton.mp hx]
  | passed here later =>
      cases here with
      | absent =>
          rcases List.mem_cons.mp hx with heq | hx
          · cases heq
            exact absurd rfl hfound
          · -- No later step searches for anything.
            rcases later.exists_makes hx with ⟨step, hstep, rfl⟩ | ⟨id, hcall⟩
            · exact absurd hstep lookup_notMem_tail
            · cases hcall

/-- The steps up to ready pods hand over no images. So images come after these, in every run. -/
theorem not_image_of_mem {step : Step}
    (h : step ∈ serverSteps settings r spec f ++ joinSteps settings r spec f) :
    (∀ images archives, step ≠ .stage images archives) ∧
    ∀ id archive, step ≠ .importArchive id archive := by
  rcases List.mem_append.mp h with h | h
  · exact ⟨(mem_serverSteps h).1, (mem_serverSteps h).2.1⟩
  · exact (mem_joinSteps h).2

/-- A command hands over an archive, and all archives were staged before. The images in them are
those that are declared. -/
theorem Goes.staged_of_exec {log : Exchanges} {result : Except Error Unit}
    (h : Goes settings r ((serverSteps settings r spec f ++ joinSteps settings r spec f) ++
      imageSteps f.server spec.images f.archives) log result)
    {before after : Exchanges} {id : String} {command : List String}
    {answer : Except Error ExecOutput} (hlog : log = before ++ ⟨.exec id command, answer⟩ :: after) :
    ∃ images volume archives archive,
      ⟨.copyImagesToVolume images volume, .ok archives⟩ ∈ before ∧ archive ∈ archives ∧
      command = ["ctr", "image", "import", archive] := by
  have hx : (⟨.exec id command, answer⟩ : Exchange Service.interface) ∈ log := by
    rw [hlog]
    exact List.mem_append_right _ List.mem_cons_self
  obtain ⟨step, hstep, archive, rfl, rfl⟩ := (h.exists_makes hx).resolve_right nofun
  have himage := (List.mem_append.mp hstep).resolve_left fun hfirst =>
    (not_image_of_mem hfirst).2 _ _ rfl
  have harchive : archive ∈ f.archives := by
    rcases mem_imageSteps himage with ⟨_, heq⟩ | heq | ⟨_, harchive, heq⟩ <;> cases heq
    exact harchive
  -- Without images there would be no such step.
  have himages : spec.images.isEmpty = false := by
    rw [Bool.eq_false_iff]
    intro hempty
    rw [imageSteps, if_pos hempty] at himage
    cases himage
  -- The last steps are the commands, and what stands before them ends in the staging.
  let names := spec.images.map fun image => Image.canonical image.name
  let upTo := serverSteps settings r spec f ++ joinSteps settings r spec f ++
    (spec.images.map Step.pull ++ [.stage names f.archives])
  have hsteps : (serverSteps settings r spec f ++ joinSteps settings r spec f) ++
      imageSteps f.server spec.images f.archives
      = upTo ++ f.archives.map (.importArchive f.server) := by
    simp [upTo, names, imageSteps, himages]
  have hother : ∀ step ∈ upTo, ¬ step.Makes (.exec id ["ctr", "image", "import", archive]) := by
    rintro step hmem ⟨other, rfl, -⟩
    rcases List.mem_append.mp hmem with hmem | hmem
    · exact (not_image_of_mem hmem).2 _ _ rfl
    · simp at hmem
  rw [hsteps] at h
  obtain ⟨done, later, hdone, rfl⟩ := h.before hlog hother nofun
  have hstage : Step.stage names f.archives ∈ upTo := by simp [upTo]
  obtain ⟨own, hown, hperforms⟩ := hdone.performs_of_mem hstage
  cases hperforms with
  | staged =>
      exact ⟨names, _, f.archives, archive, List.mem_append_left later (hown List.mem_cons_self),
        harchive, rfl⟩

/-- Creating a cluster is ordered and ends with the first failure, whatever is answered. Each
guarantee is read off the steps that the run went through. -/
theorem ordered_of_yields {log : Exchanges} {result : Except Error Unit}
    (h : Action.Yields (create settings r spec) log result) : Ordered settings r spec log result := by
  by_cases hdriver : spec.driver = Cluster.K3s.driver
  case neg =>
    obtain ⟨rfl, rfl⟩ := eq_of_yields_of_driver hdriver h
    exact
      { unsupported := fun _ => ⟨rfl, rfl⟩
        goes := fun heq => absurd heq hdriver
        nodes := ⟨List.nil_prefix, nofun⟩
        failFast := ⟨[], [], rfl, .nil, Or.inl rfl⟩
        removed := fun _ hid => absurd hid List.not_mem_nil
        searched := fun _ hx => absurd hx List.not_mem_nil
        ready_first := by simp
        settled_first := by simp
        staged_first := by simp }
  obtain ⟨f, hgoes⟩ := exists_goes_of_yields hdriver h
  have hgoes' : Goes settings r ((serverSteps settings r spec f ++ joinSteps settings r spec f) ++
      imageSteps f.server spec.images f.archives) log result := by
    rw [List.append_assoc]
    exact hgoes
  refine
    { unsupported := fun hother => absurd hdriver hother
      goes := fun _ => ⟨f, hgoes⟩
      nodes := filterMap_askedName?_steps spec f ▸ hgoes.askedNames
      failFast := hgoes.failFast
      removed := tidy_steps spec f log result hgoes
      searched := fun answer hx hfound => hgoes.eq_search hx hfound
      ready_first := fun before name blueprint answer after hlog hname => ?_
      settled_first := fun before images volume answer after hlog => ?_
      staged_first := fun before id command answer after hlog => ?_ }
  · have hother : ∀ step ∈ serverSteps settings r spec f,
        ¬ step.Makes (.createContainer name blueprint) := by
      rintro step hstep ⟨c, id, heq, hfqdn⟩
      exact hname (hfqdn.trans ((mem_serverSteps hstep).2.2 c id _ heq))
    obtain ⟨done, later, hdone, rfl⟩ := hgoes.before hlog hother fun id heq => by cases heq
    -- The server's word is the last of the first steps.
    have hready : Step.ready f.server ∈ serverSteps settings r spec f := by simp [serverSteps]
    obtain ⟨own, hown, hperforms⟩ := hdone.performs_of_mem hready
    obtain ⟨text, hmem, htext⟩ := hperforms.exists_report
    exact ⟨f.server, text, List.mem_append_left later (hown hmem), htext⟩
  · have hother : ∀ step ∈ serverSteps settings r spec f ++ joinSteps settings r spec f,
        ¬ step.Makes (.copyImagesToVolume images volume) := by
      rintro step hstep ⟨archives, heq⟩
      exact (not_image_of_mem hstep).1 _ _ heq
    obtain ⟨done, later, hdone, rfl⟩ := hgoes'.before hlog hother fun id heq => by cases heq
    have hsettle : Step.settle f.access ∈
        serverSteps settings r spec f ++ joinSteps settings r spec f := by simp [joinSteps]
    obtain ⟨own, hown, hperforms⟩ := hdone.performs_of_mem hsettle
    exact ⟨f.access, List.mem_append_left later (hown hperforms.pods_ready)⟩
  · exact hgoes'.staged_of_exec hlog

/-- Creating a cluster in any surroundings is ordered. The guarantees are about the calls of the
run and its result, whatever is answered and whatever state the answers come from; a run that
fails has them as well, up to where it ended. -/
theorem create_ordered {σ : Type} (answer : (call : Call) → σ → Service.Answer call × σ)
    (settings : Settings) (r : Resource) (spec : K8sSpec) (s : σ) :
    Ordered settings r spec ((create settings r spec).run.trace answer s)
      ((create settings r spec).run.run answer s).1 := by
  have hyields := Program.yields_trace answer (create settings r spec).run s
  exact ordered_of_yields hyields

/-- The answers of surroundings that grant whatever a cluster asks for. The log says at once that
the server runs, and the kubeconfig that it wrote is a short one. -/
def obliging : (call : Call) → Unit → Service.Answer call × Unit
  | .findContainers _, s => (.ok [], s)
  | .createVolume name, s | .createContainer name _, s => (.ok name, s)
  | .allocatePorts _, s => (.ok [64000, 64001, 64002], s)
  | .imageExists _, s | .podsReady _ _, s => (.ok true, s)
  | .startContainer _, s | .connectNetwork _ _ _ _, s => (.ok (), s)
  | .createDirectories _, s | .writeFile _ _, s => (.ok (), s)
  | .containerLogs _, s => (.ok Naming.k3sReadyMarker, s)
  | .copyFromContainer _ _, s => (.ok Kubeconfig.schemeless.toUTF8, s)
  | .kubernetesConnect _, s => (.ok {}, s)
  | call, s => (Container.refuse call, s)

/-- A cluster of three nodes comes up. Its server is created first, and then both agents, in the
order of their numbers. -/
theorem create_ordered_threeNodes :
    let r : Resource := { name := "dev", spec := .k8sCluster { nodes := 3 } }
    let creation := (create (Settings.ofHome "/home") r { nodes := 3 }).run
    (creation.run obliging ()).1 = .ok () ∧
    askedNames (creation.trace obliging ()) =
      ["server.dev.k8s_cluster.berth.run", "agent-1.dev.k8s_cluster.berth.run",
        "agent-2.dev.k8s_cluster.berth.run"] := by
  intro r creation
  have hok : (creation.run obliging ()).1 = .ok () := Except.eq_ok_of_toOption (by decide +kernel)
  exact ⟨hok, (create_ordered obliging (Settings.ofHome "/home") r { nodes := 3 } ()).nodes.2 hok⟩

end Provider.K8sCluster

end Moorage
