import Moorage.Proofs.Program.Calls
import Moorage.Provider

/-!
# `Moorage.Proofs.Provider.Calls`: what a creation asks for

The calls of a creation are bounded by one predicate for all resources. Most calls are `Plain`:
they make no container and no network, write no file and do not go to Nomad. Of the others a
creation makes only those for its own containers and networks, those that write the copies of
its kubeconfig, and those that ask Nomad at the published host.

The predicate `P` is left open. It has to hold of plain calls and of the few others, each with an
assumption of its own, so that the same lemmas say that a container gets the labels of its
resource, that a kubeconfig names the published host, and that nothing of another resource is
touched. What varies between creations, such as ports and tokens, is quantified in the assumptions,
because it comes from answers that are not known here.

`Builds` says which containers those are. A container is not given by its name alone: what
is asked for is a blueprint that was worked out from the configuration, and `Makes` lets `P` speak
of that. Where the blueprint cannot be worked out there is no call to be bounded.

* `Provider.Builds`: the containers of a resource, with their configurations.
* `asks_poll`, `Container.asks_create`, `Kubeconfig.asks_writeCopies`: the parts of a creation.
* `Provider.asks_create`: the creation of any resource.
-/

set_option autoImplicit false

namespace Moorage

open Service (Call)

/-- The call makes no container and no network, writes no file and does not go to Nomad. What is
left out are the calls of which more has to be known than their sort. -/
def Service.Call.Plain : Call → Prop
  | .createContainer _ _ | .createNetwork _ _ _ | .writeFile _ _ | .nomadReady _ => False
  | _ => True

/-- The names of the containers that belong to a resource. They are told from the declaration,
without looking at what exists. -/
def Provider.containerFqdns (r : Resource) : List String :=
  match r.spec with
  | .network _ | .helm _ => []
  | .container _ | .ingress _ | .docs _ => [r.fqdn]
  | .k8sCluster spec => Cluster.K3s.serverFqdn r :: Cluster.K3s.agentFqdns r spec
  | .nomadCluster spec => Cluster.Nomad.serverFqdn r :: Cluster.Nomad.clientFqdns r spec

/-- The container is one that a provider builds for the resource. What is allotted to it when it
is created, its ports and its token, may be anything. -/
inductive Provider.Builds (r : Resource) : Container → Prop
  | container {spec : ContainerSpec} (own : r.spec = .container spec) :
      Builds r (.ofResource r spec)
  | proxy {spec : IngressSpec} {host : String} (own : r.spec = .ingress spec) :
      Builds r (.ofResource r (Single.proxySpec spec host))
  | site {spec : DocsSpec} (own : r.spec = .docs spec) :
      Builds r (.ofResource r (Single.siteSpec spec))
  | k3sServer {spec : K8sSpec} {ports : Cluster.K3s.ServerPorts} {token : String}
      (own : r.spec = .k8sCluster spec) :
      Builds r (K8sCluster.node r (Cluster.K3s.serverFqdn r) ("server." ++ r.name)
        (Cluster.K3s.serverSpec spec ports (Cluster.K3s.serverFqdn r) token))
  | k3sAgent {spec : K8sSpec} {api : UInt16} {token : String} {number : Nat}
      (own : r.spec = .k8sCluster spec) (listed : number ∈ Cluster.K3s.agentNumbers spec) :
      Builds r (K8sCluster.node r (Cluster.K3s.agentFqdn r number) s!"agent-{number}.{r.name}"
        (Cluster.K3s.agentSpec spec api (Cluster.K3s.serverFqdn r) token))
  | nomadServer {spec : NomadSpec} {port : UInt16} (own : r.spec = .nomadCluster spec) :
      Builds r { owner := r.label, fqdn := Cluster.Nomad.serverFqdn r, name := "server." ++ r.name,
                 type := r.type, spec := Cluster.Nomad.serverSpec spec port }
  | nomadClient {spec : NomadSpec} {number : Nat} (own : r.spec = .nomadCluster spec)
      (listed : number ∈ Cluster.Nomad.clientNumbers spec) :
      Builds r { owner := r.label, fqdn := Cluster.Nomad.clientFqdn r number,
                 name := s!"client-{number}.{r.name}", type := r.type,
                 spec := Cluster.Nomad.clientSpec spec (Cluster.Nomad.serverFqdn r) }

/-- The containers that are built have the names that belong to the resource. -/
theorem Provider.Builds.fqdn_mem {r : Resource} {c : Container} (h : Builds r c) :
    c.fqdn ∈ containerFqdns r := by
  unfold containerFqdns
  cases h with
  | container own | proxy own | site own | k3sServer own | nomadServer own =>
      rw [own]
      exact List.mem_cons_self
  | k3sAgent own listed | nomadClient own listed =>
      rw [own]
      exact List.mem_cons_of_mem _ (List.mem_map_of_mem listed)

/-- Of the containers of the resource each may be asked for as it is built. The bound is on the
name and on the blueprint. -/
def Provider.Makes (P : Call → Prop) (r : Resource) : Prop :=
  ∀ c blueprint, Builds r c → Blueprint.ofContainer c = .ok blueprint →
    P (.createContainer c.fqdn blueprint)

/-- The names of the networks that belong to a resource. Only networks have one, which is their
bare name. -/
def Provider.networkNames (r : Resource) : List String :=
  match r.spec with
  | .network _ => [r.name]
  | _ => []

/-- The text is a kubeconfig with the published host or with the name of the cluster's server in
it, and the path is that of this copy. -/
def Kubeconfig.IsCopyOf (settings : Settings) (r : Resource) (path text : String) : Prop :=
  (path = Naming.localKubeconfig settings.cacheDir r.name ∧
    ∃ raw, rewrite raw settings.publishedHost = .ok text) ∨
  (path = Naming.dockerKubeconfig settings.cacheDir r.name ∧
    ∃ raw, rewrite raw (Cluster.K3s.serverFqdn r) = .ok text)

section Asks

variable {P : Call → Prop} {settings : Settings} {r : Resource}
variable (hplain : ∀ call : Call, call.Plain → P call)

include hplain

/-! ### Waiting -/

/-- Between the checks a wait asks for the clock and the walk only. -/
theorem asks_poll {policy : PollPolicy} {owner step : String} {check : Action Bool}
    (hcheck : check.Asks P) : (poll policy owner step check).Asks P := by
  have hask : ∀ call : Call, call.Plain →
      Action.Asks P (Service.always (Program.perform (I := Service.interface) call)) :=
    fun call h => Action.asks_always (Program.asks_perform (hplain call h))
  refine Action.asks_bind (hask (.deadline _) trivial) fun deadline => ?_
  -- By induction on the rounds. Behind the check every call of a round is plain.
  induction policy.attempts with
  | zero => exact Action.asks_throw _
  | succ attempts ih =>
      unfold Poll.waitUntil
      refine Action.asks_bind (hask .isCancelled trivial) fun stop => ?_
      dsimp only
      split
      · exact trivial
      refine Action.asks_bind hcheck fun holds => ?_
      split
      · exact Action.asks_pure ()
      refine Action.asks_bind (hask .now trivial) fun now => ?_
      split
      · exact trivial
      refine Action.asks_bind (hask (.pause _) trivial) fun cut => ?_
      split
      · exact trivial
      · exact ih

/-- Waiting for pods asks for nothing else but the pods. It is a wait for each of the selectors. -/
theorem Health.asks_waitForPods {access : ClusterAccess} {policy : PollPolicy} {owner : String}
    (selectors : List String) : (waitForPods access policy owner selectors).Asks P := by
  induction selectors with
  | nil => exact Action.asks_pure ()
  | cons selector selectors ih =>
      refine Action.asks_bind (asks_poll hplain ?_) fun _ => ih
      refine Action.asks_tryCatch ?_ fun _ => Action.asks_pure false
      exact Action.asks_attempt (Program.asks_perform (hplain _ trivial))

/-! ### Containers -/

namespace Container

/-- An image is looked up and pulled, neither of which makes a container. -/
theorem asks_ensureImage (image : Image) : (ensureImage settings image).Asks P := by
  have hpull : ∀ image, Action.Asks P (Service.pullImage image) :=
    fun image => Action.asks_attempt (Program.asks_perform (hplain _ trivial))
  unfold ensureImage
  split
  · exact hpull _
  · refine Action.asks_bind
      (Action.asks_attempt (Program.asks_perform (hplain _ trivial))) fun found => ?_
    split
    · exact Action.asks_pure ()
    · exact hpull _

/-- Attaching goes to networks that are there, and makes none. -/
theorem asks_attachToAll (owner id : String) (attachments : List NetworkAttachment) :
    (attachToAll owner id attachments).Asks P := by
  induction attachments with
  | nil => exact Action.asks_pure ()
  | cons attachment attachments ih =>
      refine Action.asks_bind (Action.asks_within ?_) fun _ => ih
      refine Action.asks_mk_pure_bind fun network _ => ?_
      exact Action.asks_attempt (Program.asks_perform (hplain _ trivial))

/-- Behind its creation a container is attached and started, by plain calls only. -/
theorem asks_bringUp (c : Container) (id : String) : (bringUp settings c id).Asks P := by
  refine Action.asks_bind (asks_attachToAll hplain c.owner id c.spec.networks) fun _ => ?_
  refine Action.asks_bind ?_ fun _ =>
    Action.asks_within (Action.asks_attempt (Program.asks_perform (hplain _ trivial)))
  unfold attachToShared
  cases settings.wanNetwork with
  | none => exact Action.asks_pure ()
  | some network =>
      exact Action.asks_within (Action.asks_attempt (Program.asks_perform (hplain _ trivial)))

/-- A removal is a plain call, so a bound on the action is one on the action with its removal. -/
theorem asks_orRemove {id : String} {action : Action Unit} (h : action.Asks P) :
    (orRemove id action).Asks P := by
  refine Action.asks_tryCatch h fun error => ?_
  refine Action.asks_bind ?_ fun _ => Action.asks_throw error
  exact Action.asks_tryCatch (Action.asks_attempt (Program.asks_perform (hplain _ trivial)))
    fun _ => Action.asks_pure ()

/-- Creating a container asks for no container but that one. All other calls of it are plain. -/
theorem asks_create {c : Container}
    (hmade : ∀ blueprint, Blueprint.ofContainer c = .ok blueprint →
      P (.createContainer c.fqdn blueprint)) :
    (create settings c).Asks P := by
  refine Action.asks_bind (Action.asks_within (asks_ensureImage hplain c.spec.image)) fun _ => ?_
  refine Action.asks_mk_pure_bind fun blueprint hspec => ?_
  refine Action.asks_bind
    (Action.asks_within (Action.asks_attempt (Program.asks_perform (hmade _ hspec)))) fun id => ?_
  exact Action.asks_bind (asks_orRemove hplain (asks_bringUp hplain c id)) fun _ =>
    Action.asks_pure id

end Container

/-! ### Kubeconfigs -/

namespace Kubeconfig

omit hplain in
/-- A fault of a file becomes a failure, which asks nothing more. -/
theorem asks_onFile {path : String} {action : Action (Except FileFault Unit)}
    (h : action.Asks P) : (onFile path action).Asks P := by
  refine Action.asks_bind h fun answer => ?_
  cases answer with
  | ok _ => exact Action.asks_pure ()
  | error fault => exact Action.asks_throw _

/-- A copy makes its directory and writes one file. Only the latter is not plain. -/
theorem asks_writeCopy {path text : String} (h : P (.writeFile path text)) :
    (writeCopy path text).Asks P := by
  refine Action.asks_bind
    (asks_onFile (Action.asks_always (Program.asks_perform (hplain _ trivial)))) fun _ => ?_
  exact asks_onFile (Action.asks_always (Program.asks_perform h))

/-- The copies of a kubeconfig are written, and nothing else is. Which texts these may be is left
to the bound. -/
theorem asks_writeCopies (hcopy : ∀ path text, IsCopyOf settings r path text →
      P (.writeFile path text)) (raw : String) :
    (writeCopies raw settings.cacheDir r.name settings.publishedHost
      (Cluster.K3s.serverFqdn r)).Asks P := by
  refine Action.asks_mk_pure_bind fun forHost hhost => ?_
  refine Action.asks_mk_pure_bind fun forNetworks hnetworks => ?_
  refine Action.asks_bind
    (asks_writeCopy hplain (hcopy _ _ (Or.inl ⟨rfl, raw, hhost⟩))) fun _ => ?_
  exact asks_writeCopy hplain (hcopy _ _ (Or.inr ⟨rfl, raw, hnetworks⟩))

end Kubeconfig

namespace Provider

/-! ### Kubernetes clusters -/

namespace K8sCluster

/-- A node asks for one container, under the name it is given. That it is noted for the resource
is a plain call. -/
theorem asks_startNode {fqdn name : String} {spec : ContainerSpec}
    (hnode : ∀ blueprint, Blueprint.ofContainer (node r fqdn name spec) = .ok blueprint →
      P (.createContainer fqdn blueprint)) :
    (startNode settings r fqdn name spec).Asks P := by
  refine Action.asks_bind (Container.asks_create hplain hnode) fun id => ?_
  refine Action.asks_bind ?_ fun _ => Action.asks_pure id
  exact Action.asks_always (Program.asks_perform (hplain _ trivial))

/-- Each agent asks for its own container, and the numbers are those that were given: an agent
beyond them is never asked for. -/
theorem asks_startAgents {spec : ContainerSpec} {numbers : List Nat}
    (hagents : ∀ number ∈ numbers, ∀ blueprint,
      Blueprint.ofContainer (node r (Cluster.K3s.agentFqdn r number) s!"agent-{number}.{r.name}"
        spec) = .ok blueprint → P (.createContainer (Cluster.K3s.agentFqdn r number) blueprint)) :
    (startAgents settings r spec numbers).Asks P := by
  induction numbers with
  | nil => exact Action.asks_pure ()
  | cons number numbers ih =>
      refine Action.asks_bind
        (asks_startNode hplain (hagents number List.mem_cons_self)) fun _ => ?_
      exact ih fun other hother => hagents other (List.mem_cons_of_mem number hother)

/-- Ports are taken with a plain call, whatever ports they are. -/
theorem asks_allocatePorts : (allocatePorts r).Asks P := by
  refine Action.asks_within (Action.asks_bind
    (Action.asks_attempt (Program.asks_perform (hplain _ trivial))) fun ports => ?_)
  split
  · exact Action.asks_pure _
  · exact Action.asks_throw _

/-- Reading the kubeconfig copies from a container and writes nothing. -/
theorem asks_readKubeconfig (id : String) : (readKubeconfig r id).Asks P := by
  refine Action.asks_within (Action.asks_bind
    (Action.asks_attempt (Program.asks_perform (hplain _ trivial))) fun raw => ?_)
  split
  · exact Action.asks_pure _
  · exact Action.asks_throw _

/-- Pulling images makes no container. -/
theorem asks_pullImages (images : List Image) : (pullImages settings r images).Asks P := by
  induction images with
  | nil => exact Action.asks_pure ()
  | cons image images ih =>
      exact Action.asks_bind
        (Action.asks_within (Container.asks_ensureImage hplain image)) fun _ => ih

/-- Archives are imported by commands in a container that is there. -/
theorem asks_importArchives (id : String) (archives : List String) :
    (importArchives r id archives).Asks P := by
  induction archives with
  | nil => exact Action.asks_pure ()
  | cons archive archives ih =>
      refine Action.asks_bind (Action.asks_within ?_) fun _ => ih
      refine Action.asks_bind
        (Action.asks_attempt (Program.asks_perform (hplain _ trivial))) fun output => ?_
      split
      · exact Action.asks_pure ()
      · exact Action.asks_throw _

/-- The helper container of the import belongs to the engine and not to the cluster: it is made
behind the one call that stages the images. -/
theorem asks_importImages (id : String) (images : List Image) :
    (importImages settings r id images).Asks P := by
  unfold importImages
  split
  · exact Action.asks_pure ()
  · refine Action.asks_bind (asks_pullImages hplain images) fun _ => ?_
    refine Action.asks_bind (Action.asks_within ?_) fun archives =>
      asks_importArchives hplain id archives
    exact Action.asks_attempt (Program.asks_perform (hplain _ trivial))

/-- Creating a cluster asks for its own nodes only, and writes its kubeconfigs only. Everything
else that it asks for is plain. -/
theorem asks_create {spec : K8sSpec} (hspec : r.spec = .k8sCluster spec) (hmade : Makes P r)
    (hcopy : ∀ path text, Kubeconfig.IsCopyOf settings r path text → P (.writeFile path text)) :
    (create settings r spec).Asks P := by
  unfold create
  split
  · exact Action.asks_throw _
  refine Action.asks_bind (Action.asks_within ?_) fun existing => ?_
  · exact Action.asks_attempt (Program.asks_perform (hplain _ trivial))
  split
  case isFalse => exact Action.asks_throw _
  refine Action.asks_bind (Action.asks_within ?_) fun _ => ?_
  · exact Action.asks_attempt (Program.asks_perform (hplain _ trivial))
  refine Action.asks_bind (asks_allocatePorts hplain) fun ports => ?_
  refine Action.asks_bind
    (Action.asks_always (Program.asks_perform (hplain _ trivial))) fun token => ?_
  -- The server, the wait for it, and the agents. Only the creations among these calls are not
  -- plain.
  refine Action.asks_bind (asks_startNode hplain (hmade _ · (.k3sServer hspec))) fun id => ?_
  refine Action.asks_bind (asks_poll hplain ?_) fun _ => ?_
  · refine Action.asks_bind (Action.asks_within ?_) fun _ => Action.asks_pure _
    exact Action.asks_attempt (Program.asks_perform (hplain _ trivial))
  refine Action.asks_bind (asks_startAgents hplain fun number hnumber blueprint =>
    hmade _ blueprint (.k3sAgent hspec hnumber)) fun _ => ?_
  -- The copies of the kubeconfig are what is written.
  refine Action.asks_bind ?_ fun _ => ?_
  · exact Action.asks_bind (asks_readKubeconfig hplain id) fun raw =>
      Action.asks_within (Kubeconfig.asks_writeCopies hplain hcopy raw)
  refine Action.asks_bind ?_ fun _ => asks_importImages hplain id spec.images
  refine Action.asks_bind (Action.asks_within ?_) fun access => Health.asks_waitForPods hplain _
  exact Action.asks_attempt (Program.asks_perform (hplain _ trivial))

end K8sCluster

/-! ### Nomad clusters -/

namespace NomadCluster

/-- A node of a Nomad cluster asks for one container, as one of a Kubernetes cluster does. -/
theorem asks_startNode {fqdn name : String} {spec : ContainerSpec}
    (hnode : ∀ blueprint, Blueprint.ofContainer
        { owner := r.label, fqdn := fqdn, name := name, type := r.type, spec := spec }
          = .ok blueprint → P (.createContainer fqdn blueprint)) :
    (startNode settings r fqdn name spec).Asks P := by
  refine Action.asks_bind (Container.asks_create hplain hnode) fun _ => ?_
  exact Action.asks_always (Program.asks_perform (hplain _ trivial))

/-- Each client asks for its own container, under the numbers that were given. -/
theorem asks_startClients {spec : ContainerSpec} {numbers : List Nat}
    (hclients : ∀ number ∈ numbers, ∀ blueprint, Blueprint.ofContainer
        { owner := r.label, fqdn := Cluster.Nomad.clientFqdn r number,
          name := s!"client-{number}.{r.name}", type := r.type, spec := spec } = .ok blueprint →
      P (.createContainer (Cluster.Nomad.clientFqdn r number) blueprint)) :
    (startClients settings r spec numbers).Asks P := by
  induction numbers with
  | nil => exact Action.asks_pure ()
  | cons number numbers ih =>
      refine Action.asks_bind
        (asks_startNode hplain (hclients number List.mem_cons_self)) fun _ => ?_
      exact ih fun other hother => hclients other (List.mem_cons_of_mem number hother)

/-- Creating a cluster asks for its own nodes only, and for its state at the published host. -/
theorem asks_create {spec : NomadSpec} (hspec : r.spec = .nomadCluster spec) (hmade : Makes P r)
    (hready : ∀ port : UInt16, P (.nomadReady s!"http://{settings.publishedHost}:{port}")) :
    (create settings r spec).Asks P := by
  refine Action.asks_bind (Action.asks_within ?_) fun existing => ?_
  · exact Action.asks_attempt (Program.asks_perform (hplain _ trivial))
  split
  case isFalse => exact Action.asks_throw _
  refine Action.asks_bind (Action.asks_within ?_) fun port => ?_
  · refine Action.asks_bind
      (Action.asks_attempt (Program.asks_perform (hplain _ trivial))) fun ports => ?_
    split
    · exact Action.asks_pure _
    · exact Action.asks_throw _
  refine Action.asks_bind (asks_startNode hplain (hmade _ · (.nomadServer hspec))) fun _ => ?_
  refine Action.asks_bind (asks_startClients hplain fun number hnumber blueprint =>
    hmade _ blueprint (.nomadClient hspec hnumber)) fun _ => ?_
  refine asks_poll hplain (Action.asks_tryCatch ?_ fun _ => Action.asks_pure false)
  exact Action.asks_bind (Action.asks_attempt (Program.asks_perform (hready port))) fun ready =>
    Action.asks_pure _

end NomadCluster

/-! ### Single containers -/

namespace Single

/-- A container resource asks for one container, which has the name of the resource. -/
theorem asks_create {spec : ContainerSpec}
    (hown : ∀ blueprint, Blueprint.ofContainer (.ofResource r spec) = .ok blueprint →
      P (.createContainer r.fqdn blueprint)) :
    (create settings r spec).Asks P :=
  Action.asks_bind (Container.asks_create hplain hown) fun _ => Action.asks_pure ()

/-- An ingress asks for its proxy, whichever host that forwards to. -/
theorem asks_createIngress {spec : IngressSpec} (hspec : r.spec = .ingress spec)
    (hmade : Makes P r) : (createIngress settings r spec).Asks P :=
  Action.asks_bind (Action.asks_within trivial) fun _ =>
    asks_create hplain (hmade _ · (.proxy hspec))

/-- Docs ask for their site, after a look at the directory. Without the directory no container is
asked for. -/
theorem asks_createDocs {spec : DocsSpec} (hspec : r.spec = .docs spec) (hmade : Makes P r) :
    (createDocs settings r spec).Asks P := by
  refine Action.asks_bind
    (Action.asks_always (Program.asks_perform (hplain _ trivial))) fun found => ?_
  split
  · exact asks_create hplain (hmade _ · (.site hspec))
  · exact Action.asks_throw _

end Single

/-! ### Networks and releases -/

/-- Creating a network asks for the network of that name. -/
theorem Network.asks_create {spec : NetworkSpec}
    (hnetwork : P (.createNetwork r.name spec.subnet (labels r))) : (create r spec).Asks P := by
  refine Action.asks_bind (Action.asks_within ?_) fun existing => ?_
  · exact Action.asks_attempt (Program.asks_perform (hplain _ trivial))
  split
  · refine Action.asks_bind (Action.asks_within ?_) fun _ => Action.asks_pure ()
    exact Action.asks_attempt (Program.asks_perform hnetwork)
  · exact Action.asks_throw _

/-- A release is installed with plain calls. What `helm` makes in the cluster is no container of
the engine. -/
theorem Helm.asks_create (spec : HelmSpec) : (create settings r spec).Asks P := by
  refine Action.asks_bind (Action.asks_within trivial) fun file => ?_
  refine Action.asks_bind (Action.asks_within ?_) fun _ => ?_
  · exact Action.asks_attempt (Program.asks_perform (hplain _ trivial))
  split
  · exact Action.asks_pure ()
  · refine Action.asks_bind (Action.asks_within ?_) fun access => Health.asks_waitForPods hplain _
    exact Action.asks_attempt (Program.asks_perform (hplain _ trivial))

end Provider

/-! ### All resources -/

/-- A creation makes the containers and networks that belong to its resource, writes the copies
of its kubeconfig and asks Nomad at the published host. All other calls of it are plain. -/
theorem Provider.asks_create (hmade : Makes P r)
    (hnetwork : ∀ name subnet labels, name ∈ networkNames r →
      P (.createNetwork name subnet labels))
    (hcopy : ∀ path text, Kubeconfig.IsCopyOf settings r path text → P (.writeFile path text))
    (hready : ∀ port : UInt16, P (.nomadReady s!"http://{settings.publishedHost}:{port}")) :
    (create settings r).Asks P := by
  unfold create
  unfold networkNames at hnetwork
  cases hspec : r.spec with
  | network spec =>
      rw [hspec] at hnetwork
      exact Network.asks_create hplain (hnetwork _ _ _ List.mem_cons_self)
  | helm spec => exact Helm.asks_create hplain spec
  | container spec => exact Single.asks_create hplain (hmade _ · (.container hspec))
  | ingress spec => exact Single.asks_createIngress hplain hspec hmade
  | docs spec => exact Single.asks_createDocs hplain hspec hmade
  | k8sCluster spec => exact K8sCluster.asks_create hplain hspec hmade hcopy
  | nomadCluster spec => exact NomadCluster.asks_create hplain hspec hmade hready

end Asks

end Moorage
