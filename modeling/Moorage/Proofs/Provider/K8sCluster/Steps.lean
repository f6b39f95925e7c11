import Moorage.Proofs.Container.Steps
import Moorage.Proofs.Poll
import Moorage.Provider.K8sCluster

/-!
# `Moorage.Proofs.Provider.K8sCluster.Steps`: the steps of bringing up a cluster

Bringing up a Kubernetes cluster is a sequence of steps, which starts with the search for its
server and ends with the images. `Step.Performs` says which calls a step makes and what it comes
to; the creation of a node is itself a sequence, of the steps of its container. `Goes` says that
steps are done in order up to the first that fails, and that nothing follows that one but the
removal of a container which could not be attached or started.

What a step finds (the host ports, the identity of a node, the text of a file) later steps
use, so the sequence depends on it: `steps` takes the `Findings` of a run. The agents are in it one
after the other, with the numbers from one up to the number of nodes less one, spelled out. A run
that fails has made only some of the findings, and the others do not matter for it.

The sequence is written down in three parts: what makes the server and waits for it, what joins the
agents and writes the kubeconfig, and the images. Nothing in this module is about the program. That
its runs go through these steps is shown where it is brought up.
-/

set_option autoImplicit false

namespace Moorage.Provider.K8sCluster

open Cluster.K3s (ServerPorts serverFqdn agentFqdn)

/-- The steps of bringing up a cluster, each with what it finds. -/
inductive Step where
  | lookup
  | volume
  | ports (found : ServerPorts)
  | token (found : String)
  /-- A step of creating the container of a node, which gets the identity. -/
  | node (c : Container) (id : String) (step : Container.Step)
  /-- The node is noted as a child of the cluster. -/
  | record (c : Container)
  /-- The server of the identity says that it runs. -/
  | ready (id : String)
  | copyOut (id text : String)
  /-- The kubeconfig is rewritten for the host and for the container networks. -/
  | rewrite (text forHost forNetworks : String)
  | directories (path : String)
  | write (path text : String)
  | connect (access : ClusterAccess)
  | settle (access : ClusterAccess)
  | pull (image : Image)
  | stage (images archives : List String)
  | importArchive (id archive : String)

variable {settings : Settings} {r : Resource}

/-- A look at the log of the server. It says that the server is ready by the marker in it,
wherever that stands. -/
def Reports (r : Resource) (id : String) (log : Exchanges) (result : Except Error Bool) : Prop :=
  ∃ answer : Except Error String, log = [⟨.containerLogs id, answer⟩] ∧
    result = (answer.map (Text.occursIn Naming.k3sReadyMarker)).mapError
      (.provider r.label "readiness")

/-- A look at the pods of the cluster. Pods that cannot be listed are not ready, and no failure
either. -/
def Settles (access : ClusterAccess) (log : Exchanges) (result : Except Error Bool) : Prop :=
  ∃ answer : Except Error Bool, log = [⟨.podsReady access "", answer⟩] ∧
    result = .ok (answer.toOption.getD false)

/-- An image is pulled under its canonical name, unless it is cached and pulls are not forced. The
four cases are those of the answers. -/
inductive Pulls (settings : Settings) (image : Image) : Exchanges → Except Error Unit → Prop
  | forced (force : settings.forcePull = true) (answer : Except Error Unit) :
      Pulls settings image [⟨.pullImage { image with name := Image.canonical image.name }, answer⟩]
        answer
  | unknown (force : settings.forcePull = false) (error : Error) :
      Pulls settings image [⟨.imageExists (Image.canonical image.name), .error error⟩]
        (.error error)
  | cached (force : settings.forcePull = false) :
      Pulls settings image [⟨.imageExists (Image.canonical image.name), .ok true⟩] (.ok ())
  | missing (force : settings.forcePull = false) (answer : Except Error Unit) :
      Pulls settings image
        [⟨.imageExists (Image.canonical image.name), .ok false⟩,
          ⟨.pullImage { image with name := Image.canonical image.name }, answer⟩]
        answer

namespace Step

/-- The step makes the calls of the list, when they are answered as the list says, and comes to
the result. -/
inductive Performs (settings : Settings) (r : Resource) :
    Step → Exchanges → Except Error Unit → Prop
  | lookupFailed (error : Error) :
      Performs settings r .lookup [⟨.findContainers (serverFqdn r), .error error⟩]
        (.error (.provider r.label "lookup" error))
  | alreadyThere {ids : List String} (some : ids ≠ []) :
      Performs settings r .lookup [⟨.findContainers (serverFqdn r), .ok ids⟩]
        (.error (.provider r.label "pre-check" (.alreadyExists "cluster" (serverFqdn r))))
  | absent : Performs settings r .lookup [⟨.findContainers (serverFqdn r), .ok []⟩] (.ok ())
  | volume (answer : Except Error String) :
      Performs settings r .volume
        [⟨.createVolume (Naming.volume Naming.imagesVolume), answer⟩]
        ((answer.map fun _ => ()).mapError (.provider r.label "volume create"))
  | portsFailed {found : ServerPorts} (error : Error) :
      Performs settings r (.ports found) [⟨.allocatePorts 3, .error error⟩]
        (.error (.provider r.label "port allocation" error))
  | portsShort {found : ServerPorts} {ports : List UInt16} (other : ports.length ≠ 3) :
      Performs settings r (.ports found) [⟨.allocatePorts 3, .ok ports⟩]
        (.error (.provider r.label "port allocation"
          (.config (.portsExhausted Naming.highPortStart))))
  | ports (found : ServerPorts) :
      Performs settings r (.ports found)
        [⟨.allocatePorts 3, .ok [found.api, found.nodes.1, found.nodes.2]⟩] (.ok ())
  | token (found : String) : Performs settings r (.token found) [⟨.freshToken, found⟩] (.ok ())
  | node {c : Container} {id : String} {step : Container.Step} {log : Exchanges}
      {result : Except Error Unit} (own : step.Performs settings c id log result) :
      Performs settings r (.node c id step) log result
  | record (c : Container) :
      Performs settings r (.record c)
        [⟨.recordChild { name := c.name, spec := .container c.spec }, ()⟩] (.ok ())
  | ready {id : String} {log : Exchanges} {result : Except Error Unit}
      (wait : Poll.Polls (.ofSettings settings) r.label "readiness" (Reports r id) log result) :
      Performs settings r (.ready id) log result
  | copyFailed {id text : String} (error : Error) :
      Performs settings r (.copyOut id text)
        [⟨.copyFromContainer id Naming.k3sKubeconfigPath, .error error⟩]
        (.error (.provider r.label "kubeconfig" error))
  | garbled {id text : String} {raw : ByteArray} {fault : Text.Utf8.Fault}
      (decode : Text.Utf8.decode raw = .error fault) :
      Performs settings r (.copyOut id text)
        [⟨.copyFromContainer id Naming.k3sKubeconfigPath, .ok raw⟩]
        (.error (.provider r.label "kubeconfig" (.config (.kubeconfigEncoding fault.message))))
  | copied {id text : String} {raw : ByteArray} (decode : Text.Utf8.decode raw = .ok text) :
      Performs settings r (.copyOut id text)
        [⟨.copyFromContainer id Naming.k3sKubeconfigPath, .ok raw⟩] (.ok ())
  /-- What was copied is no kubeconfig, and no call is made. -/
  | unreadable {text forHost forNetworks : String} {error : Error}
      (host : Kubeconfig.rewrite text settings.publishedHost = .error error) :
      Performs settings r (.rewrite text forHost forNetworks) []
        (.error (.provider r.label "kubeconfig" error))
  | unfit {text forHost forNetworks other : String} {error : Error}
      (host : Kubeconfig.rewrite text settings.publishedHost = .ok other)
      (networks : Kubeconfig.rewrite text (serverFqdn r) = .error error) :
      Performs settings r (.rewrite text forHost forNetworks) []
        (.error (.provider r.label "kubeconfig" error))
  | rewritten {text forHost forNetworks : String}
      (host : Kubeconfig.rewrite text settings.publishedHost = .ok forHost)
      (networks : Kubeconfig.rewrite text (serverFqdn r) = .ok forNetworks) :
      Performs settings r (.rewrite text forHost forNetworks) [] (.ok ())
  | directories (path : String) (answer : Except FileFault Unit) :
      Performs settings r (.directories path) [⟨.createDirectories path, answer⟩]
        (answer.mapError fun fault => .provider r.label "kubeconfig" (.io path fault))
  | write (path text : String) (answer : Except FileFault Unit) :
      Performs settings r (.write path text) [⟨.writeFile path text, answer⟩]
        (answer.mapError fun fault => .provider r.label "kubeconfig" (.io path fault))
  | connectFailed {access : ClusterAccess} (error : Error) :
      Performs settings r (.connect access)
        [⟨.kubernetesConnect (Naming.localKubeconfig settings.cacheDir r.name), .error error⟩]
        (.error (.provider r.label "health check" error))
  | connected (access : ClusterAccess) :
      Performs settings r (.connect access)
        [⟨.kubernetesConnect (Naming.localKubeconfig settings.cacheDir r.name), .ok access⟩]
        (.ok ())
  | settle {access : ClusterAccess} {log : Exchanges} {result : Except Error Unit}
      (wait : Poll.Polls (.ofSettings settings) r.label "health check" (Settles access) log result) :
      Performs settings r (.settle access) log result
  | pull {image : Image} {log : Exchanges} {outcome : Except Error Unit}
      (own : Pulls settings image log outcome) :
      Performs settings r (.pull image) log (outcome.mapError (.provider r.label "image import"))
  | stageFailed {images archives : List String} (error : Error) :
      Performs settings r (.stage images archives)
        [⟨.copyImagesToVolume images (Naming.volume Naming.imagesVolume), .error error⟩]
        (.error (.provider r.label "image import" error))
  | staged (images archives : List String) :
      Performs settings r (.stage images archives)
        [⟨.copyImagesToVolume images (Naming.volume Naming.imagesVolume), .ok archives⟩] (.ok ())
  | importFailed {id archive : String} (error : Error) :
      Performs settings r (.importArchive id archive)
        [⟨.exec id ["ctr", "image", "import", archive], .error error⟩]
        (.error (.provider r.label "image import" error))
  | importRefused {id archive : String} {output : ExecOutput} (code : output.succeeded = false) :
      Performs settings r (.importArchive id archive)
        [⟨.exec id ["ctr", "image", "import", archive], .ok output⟩]
        (.error (.provider r.label "image import" (.engine "ctr image import"
          (.reported s!"exit code {output.exitCode}: {Text.trimmed output.stderr}"))))
  | imported {id archive : String} {output : ExecOutput} (code : output.succeeded = true) :
      Performs settings r (.importArchive id archive)
        [⟨.exec id ["ctr", "image", "import", archive], .ok output⟩] (.ok ())

/-- What follows the failure of a step: a container that could not be attached or started is
removed once, whatever is answered, and otherwise nothing follows. -/
def Undo : Step → Exchanges → Prop
  | .node _ id (.attach _), log | .node _ id (.attachShared _), log | .node _ id .start, log =>
      ∃ answer, log = [⟨.removeContainer id, answer⟩]
  | _, log => log = []

/-- What follows a step that failed is nothing, or the removal of one container. The answer to the
removal is not looked at. -/
theorem Undo.eq {step : Step} {undo : Exchanges} (h : step.Undo undo) :
    undo = [] ∨ ∃ id answer, undo = [⟨.removeContainer id, answer⟩] := by
  unfold Undo at h
  split at h
  case h_4 => exact Or.inl h
  all_goals
    obtain ⟨answer, rfl⟩ := h
    exact Or.inr ⟨_, answer, rfl⟩

end Step

/-- Steps are done in order up to the first that fails, which is then undone: the exchanges of
all this, and the failure if there is one. -/
inductive Goes (settings : Settings) (r : Resource) :
    List Step → Exchanges → Except Error Unit → Prop
  | done : Goes settings r [] [] (.ok ())
  | failed {step : Step} {rest : List Step} {log undo : Exchanges} {error : Error}
      (here : step.Performs settings r log (.error error)) (undone : step.Undo undo) :
      Goes settings r (step :: rest) (log ++ undo) (.error error)
  | passed {step : Step} {rest : List Step} {log log' : Exchanges} {result : Except Error Unit}
      (here : step.Performs settings r log (.ok ())) (later : Goes settings r rest log' result) :
      Goes settings r (step :: rest) (log ++ log') result

/-- No steps make no calls and cannot fail. -/
theorem goes_nil_iff {log : Exchanges} {result : Except Error Unit} :
    Goes settings r [] log result ↔ log = [] ∧ result = .ok () := by
  constructor
  · intro h
    cases h
    exact ⟨rfl, rfl⟩
  · rintro ⟨rfl, rfl⟩
    exact .done

/-- Steps that are done in two parts. The second part is not begun if the first fails. -/
theorem goes_append_iff {steps rest : List Step} {log : Exchanges} {result : Except Error Unit} :
    Goes settings r (steps ++ rest) log result ↔
      (∃ error, Goes settings r steps log (.error error) ∧ result = .error error) ∨
      ∃ first second, Goes settings r steps first (.ok ()) ∧
        Goes settings r rest second result ∧ log = first ++ second := by
  -- The first step decides: it fails, or the rest of the first part goes on from there.
  induction steps generalizing log with
  | nil => simp [goes_nil_iff]
  | cons step steps ih =>
      constructor
      · intro h
        cases h with
        | failed here undone => exact Or.inl ⟨_, .failed here undone, rfl⟩
        | passed here later =>
            rcases ih.mp later with ⟨error, hsteps, rfl⟩ | ⟨first, second, hsteps, hrest, rfl⟩
            · exact Or.inl ⟨error, .passed here hsteps, rfl⟩
            · exact Or.inr ⟨_, second, .passed here hsteps, hrest,
                (List.append_assoc _ first second).symm⟩
      · rintro (⟨error, h, rfl⟩ | ⟨first, second, h, hrest, rfl⟩)
        · cases h with
          | failed here undone => exact .failed here undone
          | passed here later => exact .passed here (ih.mpr (Or.inl ⟨error, later, rfl⟩))
        · cases h with
          | passed here later =>
              rw [List.append_assoc]
              exact .passed here (ih.mpr (Or.inr ⟨_, second, later, hrest, rfl⟩))

/-! ### The sequence -/

/-- What a run finds on its way. The steps are told with it, as what is asked later depends on
what was found before. -/
structure Findings where
  ports : ServerPorts
  token : String
  /-- The identity of the server's container. -/
  server : String
  /-- The identities of the agents' containers, in order. -/
  agents : List String
  /-- The kubeconfig as the server wrote it, for the host and for the container networks. -/
  text : String
  forHost : String
  forNetworks : String
  access : ClusterAccess
  archives : List String
  deriving DecidableEq, Repr, Inhabited

/-- The container of the server. Its configuration depends on the ports and on the token that were
found. -/
def server (r : Resource) (spec : K8sSpec) (ports : ServerPorts) (token : String) : Container :=
  node r (serverFqdn r) ("server." ++ r.name)
    (Cluster.K3s.serverSpec spec ports (serverFqdn r) token)

/-- The container of an agent. The configuration is that of all agents, and the number is in its
names. -/
def agent (r : Resource) (spec : ContainerSpec) (number : Nat) : Container :=
  node r (agentFqdn r number) s!"agent-{number}.{r.name}" spec

/-- The steps of creating a node. After those of its container, the node is noted as a child of
the cluster. -/
def nodeSteps (settings : Settings) (c : Container) (id : String) : List Step :=
  (Container.Step.all settings c).map (.node c id) ++ [.record c]

/-- The steps of creating the agents of the numbers, with the identities that they get. There is
an identity for each number. -/
def agentSteps (settings : Settings) (r : Resource) (spec : ContainerSpec) :
    List Nat → List String → List Step
  | [], _ => []
  | number :: rest, ids =>
      nodeSteps settings (agent r spec number) (ids.headD "") ++
        agentSteps settings r spec rest ids.tail

/-- The steps of writing one copy of the kubeconfig. The directory is made first. -/
def copySteps (path text : String) : List Step := [.directories (Path.parent path), .write path text]

/-- The steps of handing images to the server. Without images there are none, not even an empty
import. -/
def imageSteps (id : String) (images : List Image) (archives : List String) : List Step :=
  if images.isEmpty then []
  else
    images.map .pull ++
      (.stage (images.map fun image => Image.canonical image.name) archives ::
        archives.map (.importArchive id))

/-- The steps up to the server's word that it runs. No agent is asked for before that. -/
def serverSteps (settings : Settings) (r : Resource) (spec : K8sSpec) (f : Findings) : List Step :=
  [.lookup, .volume, .ports f.ports, .token f.token] ++
    nodeSteps settings (server r spec f.ports f.token) f.server ++ [.ready f.server]

/-- The steps from there to pods that are ready. The agents come first, one for each node but the
server's, and they are numbered from one. -/
def joinSteps (settings : Settings) (r : Resource) (spec : K8sSpec) (f : Findings) : List Step :=
  agentSteps settings r (Cluster.K3s.agentSpec spec f.ports.api (serverFqdn r) f.token)
      (List.range' 1 (max spec.nodes.toNat 1 - 1)) f.agents ++
    [.copyOut f.server f.text, .rewrite f.text f.forHost f.forNetworks] ++
    copySteps (Naming.localKubeconfig settings.cacheDir r.name) f.forHost ++
    copySteps (Naming.dockerKubeconfig settings.cacheDir r.name) f.forNetworks ++
    [.connect f.access, .settle f.access]

/-- All steps of bringing up a cluster. They are told without the program, which `BringUp` proves
to go through them. -/
def steps (settings : Settings) (r : Resource) (spec : K8sSpec) (f : Findings) : List Step :=
  serverSteps settings r spec f ++
    (joinSteps settings r spec f ++ imageSteps f.server spec.images f.archives)

/-- Creating agents goes through steps of their containers, and notes them. -/
theorem mem_agentSteps {spec : ContainerSpec} {numbers : List Nat} {ids : List String} {step : Step}
    (h : step ∈ agentSteps settings r spec numbers ids) :
    (∃ number ∈ numbers, ∃ id own, step = .node (agent r spec number) id own) ∨
    ∃ c, step = .record c := by
  induction numbers generalizing ids with
  | nil => cases h
  | cons number numbers ih =>
      rcases List.mem_append.mp h with h | h
      · simp only [nodeSteps, List.mem_append, List.mem_map, List.mem_singleton] at h
        rcases h with ⟨own, -, rfl⟩ | rfl
        · exact Or.inl ⟨number, List.mem_cons_self, _, own, rfl⟩
        · exact Or.inr ⟨_, rfl⟩
      · refine (ih h).imp_left ?_
        rintro ⟨other, hother, hstep⟩
        exact ⟨other, List.mem_cons_of_mem number hother, hstep⟩

/-- The steps of an import: an image that is pulled, all of them staged, and an archive that is
imported. -/
theorem mem_imageSteps {id : String} {images : List Image} {archives : List String} {step : Step}
    (h : step ∈ imageSteps id images archives) :
    (∃ image, step = .pull image) ∨
    step = .stage (images.map fun image => Image.canonical image.name) archives ∨
    ∃ archive ∈ archives, step = .importArchive id archive := by
  unfold imageSteps at h
  split at h
  · cases h
  · simp only [List.mem_append, List.mem_cons, List.mem_map] at h
    rcases h with ⟨image, -, rfl⟩ | rfl | ⟨archive, harchive, rfl⟩
    · exact Or.inl ⟨image, rfl⟩
    · exact Or.inr (Or.inl rfl)
    · exact Or.inr (Or.inr ⟨archive, harchive, rfl⟩)

end Moorage.Provider.K8sCluster
