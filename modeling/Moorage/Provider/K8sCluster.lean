import Moorage.Cluster.K3s
import Moorage.Container.Lifecycle
import Moorage.Health
import Moorage.Kubeconfig.Copies
import Moorage.Text.Utf8

/-!
# `Moorage.Provider.K8sCluster`: Kubernetes clusters

The steps of a creation follow one another, and the first failure ends it: the
server is looked up, the volume of images and the host ports are made ready, the
server starts and reports that it runs, the agents join, the kubeconfig is
copied, the pods settle, and the declared images are imported.
-/

set_option autoImplicit false

namespace Moorage.Provider.K8sCluster

open Service (within refuse)
open Cluster.K3s (ServerPorts)

/-- The server of the cluster. -/
def lookup (r : Resource) : Action (List String) :=
  Container.idsOf r.label (Cluster.K3s.serverFqdn r)

/-- A container that belongs to the cluster. -/
def node (r : Resource) (fqdn name : String) (spec : ContainerSpec) : Container where
  owner := r.label
  fqdn := fqdn
  name := name
  type := r.type
  spec := spec

/-- Starts a node of the cluster and records it as a child. -/
def startNode (settings : Settings) (r : Resource) (fqdn name : String) (spec : ContainerSpec) :
    Action String := do
  let id ← Container.create settings (node r fqdn name spec)
  Service.recordChild { name := name, spec := .container spec }
  return id

/-- The host ports of a new cluster. -/
def allocatePorts (r : Resource) : Action ServerPorts :=
  within r.label "port allocation" do
    match ← Service.allocatePorts 3 with
    | [api, first, second] => return { api := api, nodes := (first, second) }
    | _ => throw (.config (.portsExhausted Naming.highPortStart))

/-- Whether the server's log says that its node agent runs. -/
def serverReports (r : Resource) (id : String) : Action Bool := do
  let logs ← within r.label "readiness" (Service.containerLogs id)
  return Text.occursIn Naming.k3sReadyMarker logs

/-- Waits until the server runs. -/
def waitForServer (settings : Settings) (r : Resource) (id : String) : Action Unit :=
  poll (.ofSettings settings) r.label "readiness" (serverReports r id)

/-- Starts agents in order. -/
def startAgents (settings : Settings) (r : Resource) (spec : ContainerSpec) :
    List Nat → Action Unit
  | [] => pure ()
  | number :: rest => do
      let _ ← startNode settings r (Cluster.K3s.agentFqdn r number) s!"agent-{number}.{r.name}" spec
      startAgents settings r spec rest

/-- The text of the kubeconfig that the server wrote. -/
def readKubeconfig (r : Resource) (id : String) : Action String :=
  within r.label "kubeconfig" do
    let raw ← Service.copyFromContainer id Naming.k3sKubeconfigPath
    match Text.Utf8.decode raw with
    | .ok text => return text
    | .error fault => throw (.config (.kubeconfigEncoding fault.message))

/-- Writes the copies of the kubeconfig. -/
def writeKubeconfig (settings : Settings) (r : Resource) (id : String) : Action Unit := do
  let raw ← readKubeconfig r id
  within r.label "kubeconfig" <|
    Kubeconfig.writeCopies raw settings.cacheDir r.name settings.publishedHost
      (Cluster.K3s.serverFqdn r)

/-- Waits until all pods of the cluster are ready. -/
def checkHealth (settings : Settings) (r : Resource) : Action Unit := do
  let access ← within r.label "health check"
    (Service.kubernetesConnect (Naming.localKubeconfig settings.cacheDir r.name))
  Health.waitForPods access (.ofSettings settings) r.label [""]

/-- Pulls images in order. -/
def pullImages (settings : Settings) (r : Resource) : List Image → Action Unit
  | [] => pure ()
  | image :: rest => do
      within r.label "image import" (Container.ensureImage settings image)
      pullImages settings r rest

/-- Imports one archive of the volume into the server. -/
def importArchive (r : Resource) (id archive : String) : Action Unit :=
  within r.label "image import" do
    let output ← Service.exec id ["ctr", "image", "import", archive]
    if output.succeeded then pure ()
    else
      throw (.engine "ctr image import"
        (.reported s!"exit code {output.exitCode}: {Text.trimmed output.stderr}"))

/-- Imports archives in order. -/
def importArchives (r : Resource) (id : String) : List String → Action Unit
  | [] => pure ()
  | archive :: rest => do
      importArchive r id archive
      importArchives r id rest

/-- Imports the declared images into the server. -/
def importImages (settings : Settings) (r : Resource) (id : String) (images : List Image) :
    Action Unit := do
  if images.isEmpty then pure ()
  else
    pullImages settings r images
    let archives ← within r.label "image import" <|
      Service.copyImagesToVolume (images.map fun image => Image.canonical image.name)
        (Naming.volume Naming.imagesVolume)
    importArchives r id archives

/-- Creates the nodes of the cluster and makes it ready for use. -/
def bringUp (settings : Settings) (r : Resource) (spec : K8sSpec) : Action Unit := do
  let fqdn := Cluster.K3s.serverFqdn r
  let _ ← within r.label "volume create"
    (Service.createVolume (Naming.volume Naming.imagesVolume))
  let ports ← allocatePorts r
  let token ← Service.freshToken
  let id ← startNode settings r fqdn ("server." ++ r.name)
    (Cluster.K3s.serverSpec spec ports fqdn token)
  waitForServer settings r id
  startAgents settings r (Cluster.K3s.agentSpec spec ports.api fqdn token)
    (Cluster.K3s.agentNumbers spec)
  writeKubeconfig settings r id
  checkHealth settings r
  importImages settings r id spec.images

/-- Creates the cluster, unless its driver is unknown or its server exists. -/
def create (settings : Settings) (r : Resource) (spec : K8sSpec) : Action Unit := do
  if spec.driver ≠ Cluster.K3s.driver then
    refuse r.label "validate" (.config (.unsupportedDriver spec.driver))
  else
    let existing ← lookup r
    if existing.isEmpty then bringUp settings r spec
    else refuse r.label "pre-check" (.alreadyExists "cluster" (Cluster.K3s.serverFqdn r))

/-- Removes the directory of the cluster's configuration. One that is gone
already is no failure. -/
def removeConfiguration (settings : Settings) (r : Resource) : Action Unit := do
  let directory := Naming.clusterDir settings.cacheDir r.name
  match ← Service.removeTree directory with
  | .ok () | .error .missing => pure ()
  | .error fault => refuse r.label "kubeconfig remove" (.io directory fault)

/-- Removes the nodes of the cluster, and then its configuration. -/
def destroy (settings : Settings) (r : Resource) (spec : K8sSpec) : Action Unit := do
  Container.removeAll r.label (Cluster.K3s.serverFqdn r :: Cluster.K3s.agentFqdns r spec)
  removeConfiguration settings r

end Moorage.Provider.K8sCluster
