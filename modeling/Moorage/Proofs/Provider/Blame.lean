import Moorage.Proofs.Container.Create
import Moorage.Proofs.Host
import Moorage.Proofs.Provider.Helm
import Moorage.Proofs.Target

/-!
# `Moorage.Proofs.Provider.Blame`: references that fail when something is created

The graph takes every string that resolves, and leaves out empty ones. A creation reads the string
as a reference of one type: that of a network for what a container is attached to, that of a
Kubernetes cluster for a release, and any type at all for the target of an ingress. To resolve and
to be read are different things, since a string resolves in the module of the resource and is read
without regard to it.

`blameless_of_build` says for which strings the graph answers for the creation: those that stand
for a resource of that type, `Graph.Aims`. Then neither the creation nor the destruction of the
resource fails because of a reference, whatever else fails. For other strings nothing is checked
before the work has begun, and `references_unchecked` has a graph with two of them.

The middle of the module goes through the functions that creations and destructions are made of,
from single containers to clusters, and says of each that it `NeverBlames`. What they share is the
assumption on the attachments: that each can be read as a network. Functions that read no string
need none.

* `neverBlames_create`, `neverBlames_destroy`: a resource whose strings can be read blames none.
* `references_unchecked`: strings that the graph takes, and that end a creation and a destruction.
-/

set_option autoImplicit false

namespace Moorage

open Service (Spares)

/-! ### The strings that are read -/

/-- The configuration has the string, which is read as a reference to a resource of one of the
types. An ingress with a service does not read its target. -/
inductive Spec.Uses (spec : Spec) : String → List ResourceType → Prop
  | network {a : NetworkAttachment} (ha : a ∈ spec.networks) : Uses spec a.name [.network]
  | cluster {release : HelmSpec} (h : spec = .helm release) :
      Uses spec release.cluster [.k8sCluster]
  | target {ingress : IngressSpec} (h : spec = .ingress ingress)
      (hservice : ingress.service = none) : Uses spec ingress.target ResourceType.all

/-- Every string that is read is a reference to a resource of one of the types. This is asked of
the strings alone, without a registry. -/
def Spec.IsReadable (spec : Spec) : Prop :=
  ∀ text types, spec.Uses text types → ∃ q, Reference.read text = .ok q ∧ q.type ∈ types

/-- Every string that is read stands for resources of the types among the given ones. It is the
same in terms of the graph, which looks strings up. -/
def Resource.IsAimed (resources : List Resource) (r : Resource) : Prop :=
  ∀ text types, r.spec.Uses text types → Graph.Aims resources r text types

namespace Spec

variable {spec : Spec}

/-- The strings that are read are among those that the graph looks at. So the graph has resolved
each of them before anything is read. -/
theorem Uses.mem_references {text : String} {types : List ResourceType}
    (h : spec.Uses text types) : text ∈ spec.references := by
  unfold references
  cases h with
  | network ha => exact List.mem_append_left _ (List.mem_map_of_mem ha)
  | cluster h => simp [h]
  | target h => simp [h]

/-- An attachment that can be read gives the name of its network without a failure: the name is
all that is taken from the reference. -/
theorem IsReadable.networkName (h : spec.IsReadable) {a : NetworkAttachment}
    (ha : a ∈ spec.networks) : Blameless (Target.networkName a.name) := by
  obtain ⟨q, hread, htype⟩ := h _ _ (.network ha)
  rw [Target.networkName_of_read hread (List.mem_singleton.mp htype)]
  exact blameless_ok q.name

/-- The path of a release's kubeconfig is worked out from the name of its cluster alone, so it
exists when the cluster can be read, for any cache directory. -/
theorem IsReadable.releaseKubeconfig {release : HelmSpec} (h : (Spec.helm release).IsReadable)
    (cache : String) : Blameless (Target.releaseKubeconfig cache release) := by
  obtain ⟨q, hread, htype⟩ := h _ _ (.cluster rfl)
  rw [Target.releaseKubeconfig_of_read hread (List.mem_singleton.mp htype)]
  exact blameless_ok _

/-- An ingress with a service has that as its host and reads no target. One without needs a target
that can be read, as a reference of whatever type. -/
theorem IsReadable.ingressHost {ingress : IngressSpec} (h : (Spec.ingress ingress).IsReadable) :
    Blameless (Target.ingressHost ingress) := by
  cases hservice : ingress.service with
  | some service =>
      unfold Target.ingressHost
      rw [hservice]
      exact blameless_ok service
  | none =>
      obtain ⟨q, hread, -⟩ := h _ _ (.target rfl hservice)
      rw [Target.ingressHost_of_read hservice hread]
      exact blameless_ok _

end Spec

/-! ### Waiting -/

/-- A wait adds failures of its own, a deadline that has passed and a cancellation. Neither blames
a reference, so only the check counts. -/
theorem neverBlames_poll {policy : PollPolicy} {owner step : String} {check : Action Bool}
    (hcheck : NeverBlames Spares check) : NeverBlames Spares (poll policy owner step check) :=
  FailsOnly.poll rfl rfl hcheck

/-- Waiting for pods reads no reference: the selectors are handed to the cluster as they stand. -/
theorem Health.neverBlames_waitForPods (access : ClusterAccess) (policy : PollPolicy)
    (owner : String) (selectors : List String) :
    NeverBlames Spares (waitForPods access policy owner selectors) :=
  FailsOnly.waitForPods (P := fun error => error.blamesReference = false) rfl rfl selectors

/-! ### Containers -/

/-- A container that cannot be described is not the fault of a reference. It is that of a port
range or of a volume. -/
theorem Blueprint.blameless_ofContainer (c : Container) : Blameless (Blueprint.ofContainer c) := by
  refine (blameless_mapError (fun _ => rfl) _).bind fun publications => ?_
  exact (blameless_mapError (fun _ => rfl) _).bind fun mounts => blameless_ok _

namespace Container

variable {settings : Settings} {owner : String}

/-- An image is asked for and pulled by its own name, which is no reference to a resource. -/
theorem neverBlames_ensureImage (image : Image) :
    NeverBlames Spares (ensureImage settings image) := by
  have hpull : ∀ image, NeverBlames Spares (Service.pullImage image) := fun image _ h => h
  unfold ensureImage
  dsimp only
  split
  · exact hpull _
  · refine .bind (fun _ h => h) fun found => ?_
    split
    · exact .pure ()
    · exact hpull _

/-- Attaching blames no reference when every attachment names a network. It reads each of them,
one at a time. -/
theorem neverBlames_attachToAll {attachments : List NetworkAttachment}
    (h : ∀ a ∈ attachments, Blameless (Target.networkName a.name)) (id : String) :
    NeverBlames Spares (attachToAll owner id attachments) := by
  induction attachments with
  | nil => exact .pure ()
  | cons attachment rest ih =>
      obtain ⟨hfirst, hrest⟩ := List.forall_mem_cons.mp h
      refine .bind (.within ?_) fun _ => ih hrest
      -- The name is worked out before the engine is asked.
      exact .bind (.decided hfirst) fun network => fun _ h => h

/-- A container that is removed after a failure leaves that failure as it was. What the removal
fails with is not reported at all. -/
theorem neverBlames_orRemove {id : String} {action : Action Unit}
    (h : NeverBlames Spares action) : NeverBlames Spares (orRemove id action) :=
  FailsOnly.orRemove h

/-- Of all the steps of creating a container only the attachments read references, so the names of
the networks are all that the creation can be ended by. The shared network is named by the
settings. -/
theorem neverBlames_create {c : Container}
    (h : ∀ a ∈ c.spec.networks, Blameless (Target.networkName a.name)) :
    NeverBlames Spares (create settings c) := by
  have hbringUp : ∀ id, NeverBlames Spares (bringUp settings c id) := by
    intro id
    refine .bind (neverBlames_attachToAll h id) fun _ => ?_
    refine .bind ?_ fun _ => .within fun _ h => h
    unfold attachToShared
    split
    · exact .pure ()
    · exact .within fun _ h => h
  refine .bind (.within (neverBlames_ensureImage _)) fun _ => ?_
  refine .bind (.decided (Blueprint.blameless_ofContainer c)) fun blueprint => ?_
  refine .bind (.within fun _ h => h) fun id => ?_
  exact .bind (neverBlames_orRemove (hbringUp id)) fun _ => .pure id

/-- Containers are looked for by their label, which is the full name of the resource and not
read. -/
theorem neverBlames_idsOf (fqdn : String) : NeverBlames Spares (idsOf owner fqdn) :=
  .within fun _ h => h

/-- Containers are removed by what the engine calls them. A failure other than that one is gone is
passed on, and it is the engine's. -/
theorem neverBlames_removeAll (fqdns : List String) :
    NeverBlames Spares (removeAll owner fqdns) := by
  have hids : NeverBlames Spares (idsOfAll owner fqdns) := by
    induction fqdns with
    | nil => exact .pure []
    | cons fqdn fqdns ih =>
        exact .bind (neverBlames_idsOf fqdn) fun ids => .bind ih fun more => .pure _
  refine .bind hids fun ids => ?_
  induction ids with
  | nil => exact .pure ()
  | cons id ids ih =>
      refine .bind (.within (.tryCatch (fun _ h => h) fun error herror => ?_)) fun _ => ih
      split
      · exact .pure ()
      · exact .throw herror

end Container

/-! ### Kubeconfigs -/

namespace Kubeconfig

/-- A kubeconfig that cannot be read, changed or written is a matter of its text. The hosts that
are put into it need not be references. -/
theorem blameless_rewrite (text host : String) : Blameless (rewrite text host) := by
  refine (blameless_mapError (fun _ => rfl) _).bind fun document => ?_
  refine (blameless_mapError (fun _ => rfl) _).bind fun changed => ?_
  split
  · exact blameless_ok _
  · exact blameless_error rfl

/-- What can go wrong with a file comes from the file system, at the path that the failure names. -/
theorem neverBlames_onFile (path : String)
    (program : Program Service.interface (Except FileFault Unit)) :
    NeverBlames Spares (onFile path (Service.always program)) := by
  refine .bind (.lift program) fun outcome => ?_
  split
  · exact .pure ()
  · exact .throw rfl

/-- The two copies of a kubeconfig are worked out before either is written, and neither part reads
a reference. -/
theorem neverBlames_writeCopies (raw cache cluster localHost serverFqdn : String) :
    NeverBlames Spares (writeCopies raw cache cluster localHost serverFqdn) := by
  have hcopy : ∀ path text, NeverBlames Spares (writeCopy path text) := fun path text =>
    .bind (neverBlames_onFile _ _) fun _ => neverBlames_onFile _ _
  refine .bind (.decided (blameless_rewrite _ _)) fun forHost => ?_
  refine .bind (.decided (blameless_rewrite _ _)) fun forNetworks => ?_
  exact .bind (hcopy _ _) fun _ => hcopy _ _

end Kubeconfig

namespace Provider

variable {settings : Settings} {r : Resource}

/-! ### Networks and releases -/

/-- A network that is there already is refused in its own name, which blames no reference. -/
theorem Network.neverBlames_create (spec : NetworkSpec) : NeverBlames Spares (create r spec) := by
  refine .bind (.within fun _ h => h) fun existing => ?_
  split
  · exact .bind (.within fun _ h => h) fun _ => .pure ()
  · exact .throw rfl

/-- Networks are removed as they were found, and one that is gone by then is passed over. Other
failures are the engine's. -/
theorem Network.neverBlames_destroy : NeverBlames Spares (destroy r) := by
  refine .bind (.within fun _ h => h) fun ids => ?_
  induction ids with
  | nil => exact .pure ()
  | cons id ids ih =>
      refine .bind (.tryCatch (fun _ h => h) fun error herror => ?_) fun _ => ih
      split
      · exact .pure ()
      · exact .throw herror

/-- A release reads one reference, that to its cluster. When its kubeconfig has a path, all that
is left is the program that installs the release and the wait for its pods. -/
theorem Helm.neverBlames_create {spec : HelmSpec}
    (h : Blameless (Target.releaseKubeconfig settings.cacheDir spec)) :
    NeverBlames Spares (create settings r spec) := by
  refine .bind (.within (.decided h)) fun file => ?_
  refine .bind (.within fun _ h => h) fun _ => ?_
  split
  · exact .pure ()
  · exact .bind (.within fun _ h => h) fun access => Health.neverBlames_waitForPods _ _ _ _

/-- A release is taken down with the same kubeconfig as it was installed with, so the same
reference is all that has to be readable. That the file is missing is no failure. -/
theorem Helm.neverBlames_destroy {spec : HelmSpec}
    (h : Blameless (Target.releaseKubeconfig settings.cacheDir spec)) :
    NeverBlames Spares (destroy settings r spec) := by
  refine .bind (.within (.decided h)) fun file => ?_
  refine .bind (.bind (.lift _) fun found => .pure _) fun isThere => ?_
  split
  · refine .tryCatch (fun _ h => h) fun error herror => ?_
    split
    · exact .pure ()
    · exact .throw herror
  · exact .pure ()

/-! ### Single containers -/

/-- A container resource is one container, with the attachments of its own configuration. -/
theorem Single.neverBlames_create {spec : ContainerSpec}
    (h : ∀ a ∈ spec.networks, Blameless (Target.networkName a.name)) :
    NeverBlames Spares (create settings r spec) :=
  .bind (Container.neverBlames_create h) fun _ => .pure ()

/-- An ingress reads its target before its container is made, and its attachments while it is. -/
theorem Single.neverBlames_createIngress {spec : IngressSpec}
    (hnetworks : ∀ a ∈ spec.networks, Blameless (Target.networkName a.name))
    (hhost : Blameless (Target.ingressHost spec)) :
    NeverBlames Spares (createIngress settings r spec) :=
  .bind (.within (.decided hhost)) fun _ => neverBlames_create hnetworks

/-- Docs need their directory, and a missing one is told by its path. Otherwise they are a
container. -/
theorem Single.neverBlames_createDocs {spec : DocsSpec}
    (h : ∀ a ∈ spec.networks, Blameless (Target.networkName a.name)) :
    NeverBlames Spares (createDocs settings r spec) := by
  refine .bind (.lift _) fun found => ?_
  split
  · exact neverBlames_create h
  · exact .throw rfl

/-! ### Nomad clusters -/

namespace NomadCluster

/-- A node of a Nomad cluster is a container with the attachments of the cluster. The identifier
is noted, which cannot fail. -/
theorem neverBlames_startNode {fqdn name : String} {spec : ContainerSpec}
    (h : ∀ a ∈ spec.networks, Blameless (Target.networkName a.name)) :
    NeverBlames Spares (startNode settings r fqdn name spec) :=
  .bind (Container.neverBlames_create h) fun _ => .lift _

/-- That no port is free is a failure of the configuration, put down to the step. -/
theorem neverBlames_allocatePort : NeverBlames Spares (allocatePort r) := by
  refine .within (.bind (fun _ h => h) fun ports => ?_)
  split
  · exact .pure _
  · exact .throw rfl

/-- Server and clients have the same attachments, so that one assumption does for all of them. The
wait at the end takes a cluster that does not answer for one that is not ready yet. -/
theorem neverBlames_create {spec : NomadSpec}
    (h : ∀ a ∈ spec.networks, Blameless (Target.networkName a.name)) :
    NeverBlames Spares (create settings r spec) := by
  have hclients : ∀ fqdn numbers, NeverBlames Spares
      (startClients settings r (Cluster.Nomad.clientSpec spec fqdn) numbers) := by
    intro fqdn numbers
    induction numbers with
    | nil => exact .pure ()
    | cons number numbers ih => exact .bind (neverBlames_startNode h) fun _ => ih
  refine .bind (Container.neverBlames_idsOf _) fun existing => ?_
  split
  case isFalse => exact .throw rfl
  refine .bind neverBlames_allocatePort fun port => ?_
  refine .bind (neverBlames_startNode h) fun _ => ?_
  refine .bind (hclients _ _) fun _ => ?_
  refine neverBlames_poll (.tryCatch ?_ fun _ _ => .pure false)
  exact .bind (fun _ h => h) fun _ => .pure _

end NomadCluster

/-! ### Kubernetes clusters -/

namespace K8sCluster

/-- A node of a Kubernetes cluster is a container with the attachments of the cluster. The
identifier is noted for the resource and handed on. -/
theorem neverBlames_startNode {fqdn name : String} {spec : ContainerSpec}
    (h : ∀ a ∈ spec.networks, Blameless (Target.networkName a.name)) :
    NeverBlames Spares (startNode settings r fqdn name spec) :=
  .bind (Container.neverBlames_create h) fun id => .bind (.lift _) fun _ => .pure id

/-- The agents are started one after the other, with the attachments of the server. -/
theorem neverBlames_startAgents {spec : ContainerSpec}
    (h : ∀ a ∈ spec.networks, Blameless (Target.networkName a.name)) (numbers : List Nat) :
    NeverBlames Spares (startAgents settings r spec numbers) := by
  induction numbers with
  | nil => exact .pure ()
  | cons number numbers ih => exact .bind (neverBlames_startNode h) fun _ => ih

/-- The ports of a cluster are taken together, and that there are not enough is a failure of the
configuration. -/
theorem neverBlames_allocatePorts : NeverBlames Spares (allocatePorts r) := by
  refine .within (.bind (fun _ h => h) fun ports => ?_)
  split
  · exact .pure _
  · exact .throw rfl

/-- The server is ready when its log says so. What the log says is not read as a reference. -/
theorem neverBlames_waitForServer (id : String) :
    NeverBlames Spares (waitForServer settings r id) :=
  neverBlames_poll (.bind (.within fun _ h => h) fun _ => .pure _)

/-- The kubeconfig comes out of the server's container as bytes. Bytes that are no text are
refused, and the text is copied with other hosts. -/
theorem neverBlames_writeKubeconfig (id : String) :
    NeverBlames Spares (writeKubeconfig settings r id) := by
  refine .bind (.within (.bind (fun _ h => h) fun raw => ?_)) fun text => ?_
  · split
    · exact .pure _
    · exact .throw rfl
  · exact .within (Kubeconfig.neverBlames_writeCopies _ _ _ _ _)

/-- The pods of the system are waited for as those of a release are. No selector is given, so all
of them count. -/
theorem neverBlames_checkHealth : NeverBlames Spares (checkHealth settings r) :=
  .bind (.within fun _ h => h) fun _ => Health.neverBlames_waitForPods _ _ _ _

/-- Images are pulled by name, packed, and handed to the server. That the server refuses an
archive is told from what it printed. -/
theorem neverBlames_importImages (id : String) (images : List Image) :
    NeverBlames Spares (importImages settings r id images) := by
  -- Neither the names of images nor those of archives are references.
  have hpull : NeverBlames Spares (pullImages settings r images) := by
    induction images with
    | nil => exact .pure ()
    | cons image images ih =>
        exact .bind (.within (Container.neverBlames_ensureImage image)) fun _ => ih
  have himport : ∀ archives, NeverBlames Spares (importArchives r id archives) := by
    intro archives
    induction archives with
    | nil => exact .pure ()
    | cons archive archives ih =>
        refine .bind (.within (.bind (fun _ h => h) fun output => ?_)) fun _ => ih
        split
        · exact .pure ()
        · exact .throw rfl
  unfold importImages
  split
  · exact .pure ()
  · refine .bind hpull fun _ => ?_
    exact .bind (.within fun _ h => h) himport

/-- The steps of a Kubernetes cluster in their order. Only the two that start nodes read
references, and they read the same ones. -/
theorem neverBlames_create {spec : K8sSpec}
    (h : ∀ a ∈ spec.networks, Blameless (Target.networkName a.name)) :
    NeverBlames Spares (create settings r spec) := by
  unfold create
  split
  · exact .throw rfl
  refine .bind (Container.neverBlames_idsOf _) fun existing => ?_
  split
  case isFalse => exact .throw rfl
  refine .bind (.within fun _ h => h) fun _ => ?_
  refine .bind neverBlames_allocatePorts fun ports => ?_
  refine .bind (.lift _) fun token => ?_
  refine .bind (neverBlames_startNode h) fun id => ?_
  refine .bind (neverBlames_waitForServer id) fun _ => ?_
  refine .bind (neverBlames_startAgents h _) fun _ => ?_
  refine .bind (neverBlames_writeKubeconfig id) fun _ => ?_
  exact .bind neverBlames_checkHealth fun _ => neverBlames_importImages id _

/-- Destroying a cluster reads no reference: its nodes and its directory are known by its name. -/
theorem neverBlames_destroy (spec : K8sSpec) : NeverBlames Spares (destroy settings r spec) := by
  refine .bind (Container.neverBlames_removeAll _) fun _ => ?_
  refine .bind (.lift _) fun removed => ?_
  split
  · exact .pure ()
  · exact .pure ()
  · exact .throw rfl

end K8sCluster

/-! ### All resources -/

/-- A creation blames no reference when every string that it reads is one. There is one case for
each sort of resource. -/
theorem neverBlames_create (h : r.spec.IsReadable) : NeverBlames Spares (create settings r) := by
  unfold create
  -- A provider gets the configuration and the resource; only the former decides what is read.
  generalize r.spec = spec at h ⊢
  have hnetworks : ∀ a ∈ spec.networks, Blameless (Target.networkName a.name) :=
    fun a ha => h.networkName ha
  cases spec with
  | network spec => exact Network.neverBlames_create spec
  | container spec => exact Single.neverBlames_create hnetworks
  | k8sCluster spec => exact K8sCluster.neverBlames_create hnetworks
  | nomadCluster spec => exact NomadCluster.neverBlames_create hnetworks
  | helm spec => exact Helm.neverBlames_create (h.releaseKubeconfig _)
  | ingress spec => exact Single.neverBlames_createIngress hnetworks h.ingressHost
  | docs spec => exact Single.neverBlames_createDocs hnetworks

/-- A destruction blames no reference when every string of the resource is one. -/
theorem neverBlames_destroy (h : r.spec.IsReadable) : NeverBlames Spares (destroy settings r) := by
  unfold destroy
  generalize r.spec = spec at h ⊢
  cases spec with
  | network => exact Network.neverBlames_destroy
  | container | ingress | docs | nomadCluster => exact Container.neverBlames_removeAll _
  | k8sCluster spec => exact K8sCluster.neverBlames_destroy spec
  | helm spec => exact Helm.neverBlames_destroy (h.releaseKubeconfig _)

/-- In a registry that has a graph, with names and modules without dots, the strings that a
resource reads are references of the right types exactly when each of them stands for resources of
these types. Then neither its creation nor its destruction on a machine fails because of a
reference, in whatever state and whatever else fails there. -/
theorem blameless_of_build {registry : Registry} {g : Graph} (hbuilt : Graph.build registry = .ok g)
    (hplain : ∀ u ∈ registry.resources, u.reference.IsPlain) {r : Resource}
    (hr : r ∈ registry.resources) {σ : Type} (answer : (call : Host.Call) → σ → Host.Answer call × σ)
    (hanswer : ∀ call s, Host.Spares ⟨call, (answer call s).1⟩) (engine : String)
    (settings : Settings) :
    (r.spec.IsReadable ↔ r.IsAimed registry.resources) ∧
    (r.IsAimed registry.resources →
      ∀ s, Blameless ((Host.act engine (create settings r)).run answer s).1 ∧
        Blameless ((Host.act engine (destroy settings r)).run answer s).1) := by
  have hreadable : r.spec.IsReadable ↔ r.IsAimed registry.resources := by
    refine forall_congr' fun text => forall_congr' fun types => forall_congr' fun huses => ?_
    refine (Graph.aims_iff hplain hr fun hne => ?_).symm
    -- The graph has resolved the string, unless it is empty.
    have hwaits := Resource.mem_dependencyReferences.mpr ⟨hne, Or.inr huses.mem_references⟩
    exact Graph.exists_resolve?_of_build hbuilt hr hwaits
  refine ⟨hreadable, fun haimed s => ?_⟩
  have hread := hreadable.mpr haimed
  exact ⟨(Host.act_blameless engine (neverBlames_create hread)).run hanswer s,
    (Host.act_blameless engine (neverBlames_destroy hread)).run hanswer s⟩

/-- The release on the cluster `dev`, where there is no `helm` program: its creation fails, and
blames no reference. -/
theorem blameless_of_build_app :
    let settings := Settings.ofHome "/home"
    let creation := Host.act "" (create settings Helm.app)
    let outcome := (creation.run (Helm.bare (.ok true) .missing) ()).1
    Helm.app.IsAimed Helm.appOnDevRegistry.resources ∧
    ∃ error, outcome = .error error ∧ error.blamesReference = false := by
  intro settings creation outcome
  have hplain : ∀ u ∈ Helm.appOnDevRegistry.resources, u.reference.IsPlain := by decide
  have happ : Helm.app ∈ Helm.appOnDevRegistry.resources := List.mem_cons_of_mem _ List.mem_cons_self
  -- The machine answers only two calls with failures that are already made.
  have hanswer : ∀ call s, Host.Spares ⟨call, (Helm.bare (.ok true) .missing call s).1⟩ := by
    intro call s
    cases call with
    | makeStaging => exact blameless_error rfl
    | allocatePorts => exact blameless_ok []
    | _ => trivial
  obtain ⟨hreadable, hblameless⟩ := blameless_of_build Helm.appOnDev_built.built hplain happ
    (Helm.bare (.ok true) .missing) hanswer "" settings
  -- The release reads one string, which is the reference of its cluster.
  have haimed : Helm.app.IsAimed Helm.appOnDevRegistry.resources := by
    refine hreadable.mp fun text types huses => ?_
    cases huses with
    | network ha => cases ha
    | cluster hspec =>
        cases hspec
        exact ⟨_, rfl, List.mem_singleton_self _⟩
    | target hspec => cases hspec
  have hfailed : outcome
      = .error (.provider "helm.app" "helm install" (.notFound "binary" "helm")) := rfl
  exact ⟨haimed, _, hfailed, (hblameless haimed ()).1 _ hfailed⟩

/-- There are graphs of a container that is attached to another container, and of a release
without a cluster. The container is created and taken away again because of the reference, and
the release cannot be destroyed. -/
theorem references_unchecked :
    let settings := Settings.ofHome "/home"
    let db : Resource := { name := "db", spec := .container {} }
    let web : Resource :=
      { name := "web", spec := .container { networks := [{ name := "container.db" }] } }
    let app : Resource := { name := "app", spec := .helm {} }
    let registry : Registry := { entries := [⟨0, db⟩, ⟨1, web⟩, ⟨2, app⟩], next := 3 }
    let log := (create settings web).run.trace Container.cramped none
    (∀ u ∈ registry.resources, u.reference.IsPlain) ∧ (∃ g, Graph.build registry = .ok g) ∧
    (((create settings web).run.run Container.cramped none).1
        = .error (.provider "container.web" "network attach"
          (.invalidReference "container.db" .notNetwork)) ∧
      Exchanges.createdIds log = ["0"] ∧ Exchanges.removedIds log = ["0"]) ∧
    ((Host.act "" (destroy settings app)).run (Helm.bare (.ok true) .missing) ()).1
      = .error (.provider "helm.app" "validate" (.invalidReference "" .segmentCount)) :=
  ⟨by decide, ⟨_, rfl⟩, ⟨rfl, rfl, rfl⟩, rfl⟩

end Provider

end Moorage
