import Moorage.Proofs.Container.Create
import Moorage.Proofs.Failing
import Moorage.Provider

/-!
# `Moorage.Proofs.Provider.Report`: failures name the resource and the step

Any call of a provider may be answered with a failure, and any wait may end without what it waited
for. What comes of it should say which resource failed and at which step, `Error.Names`. There are
three ways to say so: a failure is put down to a step, a wait at it took too long, or a wait at it
was cancelled. The lookup of a release says so in none of them, and is the only exception.

The owner is the label of the resource, its type and name, and a step is any text but the empty one.
Which step it is, is not asked: the steps are named in the providers, each where it is taken,
and that no name is empty is decided there.

The module follows the functions of the providers, with one lemma for each. Nearly all of them
come to `names_within` or `names_refuse` in the end, so a step that is added to a provider adds
one line to the proof about it. Nothing is assumed of the answers: `ok` is whatever one likes, also
surroundings whose failures name something else, because what is wrapped is not looked at.

* `names_of_create`, `names_of_destroy`: creations and destructions always do so.
* `names_of_lookup`: so do lookups, but for those of releases.
* `failures_name`: all three on any machine, and what the lookup of a release comes to.
-/

set_option autoImplicit false

namespace Moorage

/-- The failure names the owner and one of its steps. The other failures name something else or
nothing. -/
def Error.Names (owner : String) : Error → Prop
  | .provider reference step _ | .timeout reference step _ | .cancelled reference step =>
      reference = owner ∧ step ≠ ""
  | _ => False

variable {ok : Exchange Service.interface → Prop}

/-! ### Steps -/

section Step

variable {α : Type} {owner step : String}

/-- What is put down to a step of the owner names it, whatever it comes from. The step must have a
name. -/
theorem names_within (hstep : step ≠ "") (action : Action α) :
    FailsOnly ok (Error.Names owner) (Service.within owner step action) :=
  .within (.anyhow action) fun _ _ => ⟨rfl, hstep⟩

/-- A refusal is put down to a step in the same way as a failure that was answered. -/
theorem names_refuse (hstep : step ≠ "") (error : Error) :
    FailsOnly ok (Error.Names owner) (Service.refuse owner step error : Action α) :=
  .throw ⟨rfl, hstep⟩

/-- A wait takes the owner and the step for its own two failures, the deadline and the
cancellation. A check has to name them itself. -/
theorem names_poll {policy : PollPolicy} {check : Action Bool} (hstep : step ≠ "")
    (hcheck : FailsOnly ok (Error.Names owner) check) :
    FailsOnly ok (Error.Names owner) (poll policy owner step check) :=
  .poll ⟨rfl, hstep⟩ ⟨rfl, hstep⟩ hcheck

/-- Waiting for pods is put down to a step of its own, so that no step need be given. -/
theorem Health.names_waitForPods (access : ClusterAccess) (policy : PollPolicy)
    (selectors : List String) :
    FailsOnly ok (Error.Names owner) (waitForPods access policy owner selectors) :=
  .waitForPods ⟨rfl, by decide⟩ ⟨rfl, by decide⟩ selectors

end Step

/-! ### Containers -/

namespace Container

variable {settings : Settings} {owner : String}

/-- Every attachment is a step by itself, so the failure is that of the first that cannot be
made. -/
theorem names_attachToAll (id : String) (attachments : List NetworkAttachment) :
    FailsOnly ok (Error.Names owner) (attachToAll owner id attachments) := by
  induction attachments with
  | nil => exact .pure ()
  | cons attachment rest ih => exact .bind (names_within (by decide) _) fun _ => ih

/-- The shared network is attached at the same step as the others. Settings without one add no
step. -/
theorem names_attachToShared (id : String) :
    FailsOnly ok (Error.Names owner) (attachToShared settings owner id) := by
  unfold attachToShared
  split
  · exact .pure ()
  · exact names_within (by decide) _

/-- What keeps a container from being described is put down to its owner. It is a failure of the
step that creates the container. -/
theorem names_ofContainer (c : Container) :
    FailsWith (Error.Names c.owner) (Blueprint.ofContainer c) := by
  have hrefusal : ∀ fault, Error.Names c.owner (Blueprint.refusal c fault) :=
    fun _ => ⟨rfl, by decide⟩
  refine (failsWith_mapError (fun fault => hrefusal (.within fault)) _).bind fun publications => ?_
  exact (failsWith_mapError hrefusal _).bind fun mounts => failsWith_ok _

/-- Creating a container names its owner throughout: for the nodes of a cluster this is the
cluster and not the container. The removal after a failure is not reported, so it needs no step. -/
theorem names_create (c : Container) : FailsOnly ok (Error.Names c.owner) (create settings c) := by
  refine .bind (names_within (by decide) _) fun _ => ?_
  refine .bind (.decided (names_ofContainer c)) fun blueprint => ?_
  refine .bind (names_within (by decide) _) fun id => ?_
  refine .bind (.orRemove ?_) fun _ => .pure id
  refine .bind (names_attachToAll id _) fun _ => ?_
  exact .bind (names_attachToShared id) fun _ => names_within (by decide) _

/-- Looking a name up is a step, of whichever resource asks for it. -/
theorem names_idsOf (fqdn : String) : FailsOnly ok (Error.Names owner) (idsOf owner fqdn) :=
  names_within (by decide) _

/-- Every name is looked up and every container removed at a step. A container that is gone is
passed over below the step and leaves no failure. -/
theorem names_removeAll (fqdns : List String) :
    FailsOnly ok (Error.Names owner) (removeAll owner fqdns) := by
  have hids : FailsOnly ok (Error.Names owner) (idsOfAll owner fqdns) := by
    induction fqdns with
    | nil => exact .pure []
    | cons fqdn fqdns ih =>
        exact .bind (names_idsOf fqdn) fun ids => .bind ih fun more => .pure _
  refine .bind hids fun ids => ?_
  induction ids with
  | nil => exact .pure ()
  | cons id ids ih => exact .bind (names_within (by decide) _) fun _ => ih

end Container

namespace Provider

variable {settings : Settings} {r : Resource}

/-! ### Networks and releases -/

/-- Networks are looked up at a step, as containers are. -/
theorem Network.names_lookup : FailsOnly ok (Error.Names r.label) (lookup r) :=
  names_within (by decide) _

/-- The network is looked up and created at a step each, and a name that is taken is refused at
the second. -/
theorem Network.names_create (spec : NetworkSpec) :
    FailsOnly ok (Error.Names r.label) (create r spec) := by
  refine .bind names_lookup fun existing => ?_
  split
  · exact .bind (names_within (by decide) _) fun _ => .pure ()
  · exact names_refuse (by decide) _

/-- A removal is no step as a whole: its failures are told apart first, and those that remain are
refused at one. -/
theorem Network.names_destroy : FailsOnly ok (Error.Names r.label) (destroy r) := by
  refine .bind names_lookup fun ids => ?_
  induction ids with
  | nil => exact .pure ()
  | cons id ids ih =>
      refine .bind (.tryCatch (.anyhow _) fun error _ => ?_) fun _ => ih
      split
      · exact .pure ()
      · exact names_refuse (by decide) error

/-- A release names itself when its cluster cannot be found, because the creation puts that down
to a step. Its lookup does not. -/
theorem Helm.names_create (spec : HelmSpec) :
    FailsOnly ok (Error.Names r.label) (create settings r spec) := by
  refine .bind (names_within (by decide) _) fun file => ?_
  refine .bind (names_within (by decide) _) fun _ => ?_
  split
  · exact .pure ()
  · exact .bind (names_within (by decide) _) fun access => Health.names_waitForPods _ _ _

/-- A release that is gone is passed over, and any other failure of the program is refused at a
step. That its kubeconfig cannot be looked for is no failure at all. -/
theorem Helm.names_destroy (spec : HelmSpec) :
    FailsOnly ok (Error.Names r.label) (destroy settings r spec) := by
  refine .bind (names_within (by decide) _) fun file => ?_
  refine .bind (.bind (.lift _) fun found => .pure _) fun isThere => ?_
  split
  · refine .tryCatch (.anyhow _) fun error _ => ?_
    split
    · exact .pure ()
    · exact names_refuse (by decide) error
  · exact .pure ()

/-! ### Single containers -/

/-- A container resource is the owner of its container. So there is nothing to be translated. -/
theorem Single.names_create (spec : ContainerSpec) :
    FailsOnly ok (Error.Names r.label) (create settings r spec) :=
  .bind (Container.names_create (.ofResource r spec)) fun _ => .pure ()

/-- An ingress reads its target at a step of its own, before its container is created. -/
theorem Single.names_createIngress (spec : IngressSpec) :
    FailsOnly ok (Error.Names r.label) (createIngress settings r spec) :=
  .bind (names_within (by decide) _) fun _ => names_create _

/-- A directory that is missing is refused at the step that looks for it. -/
theorem Single.names_createDocs (spec : DocsSpec) :
    FailsOnly ok (Error.Names r.label) (createDocs settings r spec) := by
  refine .bind (.lift _) fun found => ?_
  split
  · exact names_create _
  · exact names_refuse (by decide) _

/-! ### Nomad clusters -/

namespace NomadCluster

/-- A node of a Nomad cluster is owned by the cluster, so its failures name the cluster. -/
theorem names_startNode (fqdn name : String) (spec : ContainerSpec) :
    FailsOnly ok (Error.Names r.label) (startNode settings r fqdn name spec) :=
  .bind (Container.names_create ⟨r.label, fqdn, name, r.type, spec⟩) fun _ => .lift _

/-- The clients follow one another, and the first that cannot be started names the cluster. -/
theorem names_startClients (spec : ContainerSpec) (numbers : List Nat) :
    FailsOnly ok (Error.Names r.label) (startClients settings r spec numbers) := by
  induction numbers with
  | nil => exact .pure ()
  | cons number numbers ih => exact .bind (names_startNode _ _ spec) fun _ => ih

/-- The steps of a Nomad cluster in their order, from the lookup of the server to the wait for the
clients. -/
theorem names_create (spec : NomadSpec) :
    FailsOnly ok (Error.Names r.label) (create settings r spec) := by
  refine .bind (Container.names_idsOf _) fun existing => ?_
  split
  case isFalse => exact names_refuse (by decide) _
  refine .bind (names_within (by decide) _) fun port => ?_
  refine .bind (names_startNode _ _ _) fun _ => ?_
  refine .bind (names_startClients _ _) fun _ => ?_
  -- A cluster that cannot be asked is not ready, so that the check does not fail.
  exact names_poll (by decide) (.tryCatch (.anyhow _) fun _ _ => .pure false)

end NomadCluster

/-! ### Kubernetes clusters -/

namespace K8sCluster

/-- A node of a Kubernetes cluster is owned by the cluster, so its failures name the cluster. -/
theorem names_startNode (fqdn name : String) (spec : ContainerSpec) :
    FailsOnly ok (Error.Names r.label) (startNode settings r fqdn name spec) :=
  .bind (Container.names_create (node r fqdn name spec)) fun id => .bind (.lift _) fun _ => .pure id

/-- The agents follow one another, and the first that cannot be started names the cluster. -/
theorem names_startAgents (spec : ContainerSpec) (numbers : List Nat) :
    FailsOnly ok (Error.Names r.label) (startAgents settings r spec numbers) := by
  induction numbers with
  | nil => exact .pure ()
  | cons number numbers ih => exact .bind (names_startNode _ _ spec) fun _ => ih

/-- Reading the log is put down to the same step as the wait for what it says. -/
theorem names_waitForServer (id : String) :
    FailsOnly ok (Error.Names r.label) (waitForServer settings r id) :=
  names_poll (by decide) (.bind (names_within (by decide) _) fun _ => .pure _)

/-- The kubeconfig is read and written at one step. That its bytes are no text is told at it as
well. -/
theorem names_writeKubeconfig (id : String) :
    FailsOnly ok (Error.Names r.label) (writeKubeconfig settings r id) :=
  .bind (names_within (by decide) _) fun _ => names_within (by decide) _

/-- The cluster is reached at a step, and its pods are waited for at one. -/
theorem names_checkHealth : FailsOnly ok (Error.Names r.label) (checkHealth settings r) :=
  .bind (names_within (by decide) _) fun _ => Health.names_waitForPods _ _ _

/-- Each image is pulled at the step of the import, whether for the engine or for the cluster. -/
theorem names_pullImages (images : List Image) :
    FailsOnly ok (Error.Names r.label) (pullImages settings r images) := by
  induction images with
  | nil => exact .pure ()
  | cons image images ih => exact .bind (names_within (by decide) _) fun _ => ih

/-- Each archive is imported at the step of the import. That the server refuses one is told at it
too. -/
theorem names_importArchives (id : String) (archives : List String) :
    FailsOnly ok (Error.Names r.label) (importArchives r id archives) := by
  induction archives with
  | nil => exact .pure ()
  | cons archive archives ih => exact .bind (names_within (by decide) _) fun _ => ih

/-- Pulling, packing and importing are one step, and a cluster without images does none of them.
So a failure among them does not tell which it was by its step. -/
theorem names_importImages (id : String) (images : List Image) :
    FailsOnly ok (Error.Names r.label) (importImages settings r id images) := by
  unfold importImages
  split
  · exact .pure ()
  · refine .bind (names_pullImages images) fun _ => ?_
    exact .bind (names_within (by decide) _) fun archives => names_importArchives id archives

/-- The steps of a Kubernetes cluster in their order. An unknown driver is refused before the
first of them, at a step of its own. -/
theorem names_create (spec : K8sSpec) :
    FailsOnly ok (Error.Names r.label) (create settings r spec) := by
  unfold create
  split
  · exact names_refuse (by decide) _
  refine .bind (Container.names_idsOf _) fun existing => ?_
  split
  case isFalse => exact names_refuse (by decide) _
  refine .bind (names_within (by decide) _) fun _ => ?_
  refine .bind (names_within (by decide) _) fun ports => ?_
  refine .bind (.lift _) fun token => ?_
  refine .bind (names_startNode _ _ _) fun id => ?_
  refine .bind (names_waitForServer id) fun _ => ?_
  refine .bind (names_startAgents _ _) fun _ => ?_
  refine .bind (names_writeKubeconfig id) fun _ => ?_
  exact .bind names_checkHealth fun _ => names_importImages id _

/-- The nodes are removed at their steps, and the directory of the configuration at the last one.
That it is gone already is no failure. -/
theorem names_destroy (spec : K8sSpec) :
    FailsOnly ok (Error.Names r.label) (destroy settings r spec) := by
  refine .bind (Container.names_removeAll _) fun _ => ?_
  refine .bind (.lift _) fun removed => ?_
  split
  · exact .pure ()
  · exact .pure ()
  · exact names_refuse (by decide) _

end K8sCluster

/-! ### All resources -/

/-- Whatever ends a creation, the failure names the resource and the step. There is one case for
each sort of resource. -/
theorem names_of_create (settings : Settings) (r : Resource) :
    FailsOnly ok (Error.Names r.label) (create settings r) := by
  unfold create
  split
  · exact Network.names_create _
  · exact Single.names_create _
  · exact K8sCluster.names_create _
  · exact NomadCluster.names_create _
  · exact Helm.names_create _
  · exact Single.names_createIngress _
  · exact Single.names_createDocs _

/-- Whatever ends a destruction, the failure names the resource and the step. A release has its
own case, since it reads its cluster first. -/
theorem names_of_destroy (settings : Settings) (r : Resource) :
    FailsOnly ok (Error.Names r.label) (destroy settings r) := by
  unfold destroy
  split
  · exact Network.names_destroy
  · exact Container.names_removeAll _
  · exact Container.names_removeAll _
  · exact Container.names_removeAll _
  · exact K8sCluster.names_destroy _
  · exact Container.names_removeAll _
  · exact Helm.names_destroy _

/-- Whatever ends a lookup, the failure names the resource and the step, unless it is that of a
release. -/
theorem names_of_lookup (settings : Settings) (hrelease : ∀ spec, r.spec ≠ .helm spec) :
    FailsOnly ok (Error.Names r.label) (lookup settings r) := by
  unfold lookup
  split
  · exact Network.names_lookup
  · exact Container.names_idsOf _
  · exact Container.names_idsOf _
  · exact Container.names_idsOf _
  · exact Container.names_idsOf _
  · exact Container.names_idsOf _
  · next spec hspec => exact absurd hspec (hrelease spec)

/-- The lookup of a release fails with what keeps its cluster from being found, as it is, and with
nothing else. -/
theorem Helm.lookup_eq_error_iff (spec : HelmSpec) {σ : Type}
    (answer : (call : Service.Call) → σ → Service.Answer call × σ) (s : σ) (error : Error) :
    ((lookup settings r spec).run.run answer s).1 = .error error ↔
      Target.releaseKubeconfig settings.cacheDir spec = .error error := by
  constructor
  · have honly : FailsOnly (fun _ => True)
        (fun error => Target.releaseKubeconfig settings.cacheDir spec = .error error)
        (lookup settings r spec) := by
      refine .bind (.decided fun _ herror => herror) fun file => ?_
      refine .bind (.bind (.lift _) fun found => .pure _) fun isThere => ?_
      split
      · exact .pure _
      · exact .pure _
    exact Program.Ensures.run honly (fun _ _ => trivial) s error
  · intro herror
    unfold lookup kubeconfig
    rw [herror]
    rfl

/-- On every machine, whatever it answers and whenever the work is cancelled, the failure of a
creation or of a destruction names the resource and the step. So does that of a lookup, except for
releases: that one fails as the reference to its cluster does. -/
theorem failures_name (settings : Settings) (r : Resource) {σ : Type}
    (answer : (call : Service.Call) → σ → Service.Answer call × σ) (s : σ) :
    (∀ error, ((create settings r).run.run answer s).1 = .error error → error.Names r.label) ∧
    (∀ error, ((destroy settings r).run.run answer s).1 = .error error → error.Names r.label) ∧
    ((∀ spec, r.spec ≠ .helm spec) →
      ∀ error, ((lookup settings r).run.run answer s).1 = .error error → error.Names r.label) ∧
    ∀ spec, r.spec = .helm spec → ∀ error,
      ((lookup settings r).run.run answer s).1 = .error error ↔
        Target.releaseKubeconfig settings.cacheDir spec = .error error := by
  have hrun : ∀ {α : Type} {action : Action α},
      FailsOnly (fun _ => True) (Error.Names r.label) action →
        FailsWith (Error.Names r.label) (action.run.run answer s).1 :=
    fun h => Program.Ensures.run h (fun _ _ => trivial) s
  refine ⟨hrun (names_of_create settings r), hrun (names_of_destroy settings r),
    fun hrelease => hrun (names_of_lookup settings hrelease), fun spec hspec => ?_⟩
  unfold lookup
  rw [hspec]
  exact Helm.lookup_eq_error_iff spec answer s

/-- An engine that refuses to list networks ends all that can be done for one at the lookup. Each
of the three failures names the network. -/
theorem failures_name_net :
    let net : Resource := { name := "net", spec := .network {} }
    let settings := Settings.ofHome "/home"
    let refused := Error.provider "network.net" "lookup" (.engine "call" (.reported "refused"))
    ((create settings net).run.run Container.cramped none).1 = .error refused ∧
    ((destroy settings net).run.run Container.cramped none).1 = .error refused ∧
    ((lookup settings net).run.run Container.cramped none).1 = .error refused ∧
    refused.Names "network.net" := by
  intro net settings refused
  obtain ⟨hcreate, -, -, -⟩ := failures_name settings net Container.cramped none
  exact ⟨rfl, rfl, rfl, hcreate refused rfl⟩

/-- The lookup of a release without a cluster fails, and the failure names neither the release nor
a step. -/
theorem lookup_unnamed :
    let app : Resource := { name := "app", spec := .helm {} }
    let outcome := ((lookup (Settings.ofHome "/home") app).run.run Container.cramped none).1
    ∃ error, outcome = .error error ∧ ¬ error.Names app.label :=
  ⟨.invalidReference "" .segmentCount, rfl, id⟩

end Provider

end Moorage
