import Moorage.Cluster.Nomad
import Moorage.Container.Lifecycle
import Moorage.Poll

/-!
# `Moorage.Provider.NomadCluster`: Nomad clusters

The server starts first, then the client nodes in order; the cluster is ready
once it reports as many ready nodes as it has.
-/

set_option autoImplicit false

namespace Moorage.Provider.NomadCluster

open Service (within refuse)

/-- The server of the cluster. -/
def lookup (r : Resource) : Action (List String) :=
  Container.idsOf r.label (Cluster.Nomad.serverFqdn r)

/-- Starts a node of the cluster and records it as a child. -/
def startNode (settings : Settings) (r : Resource) (fqdn name : String) (spec : ContainerSpec) :
    Action Unit := do
  let _ ← Container.create settings
    { owner := r.label, fqdn := fqdn, name := name, type := r.type, spec := spec }
  Service.recordChild { name := name, spec := .container spec }

/-- The host port of a new cluster. -/
def allocatePort (r : Resource) : Action UInt16 :=
  within r.label "port allocation" do
    match ← Service.allocatePorts 1 with
    | [port] => return port
    | _ => throw (.config (.portsExhausted Naming.highPortStart))

/-- Starts client nodes in order. -/
def startClients (settings : Settings) (r : Resource) (spec : ContainerSpec) :
    List Nat → Action Unit
  | [] => pure ()
  | number :: rest => do
      startNode settings r (Cluster.Nomad.clientFqdn r number) s!"client-{number}.{r.name}" spec
      startClients settings r spec rest

/-- Whether the cluster reports enough ready nodes; not if it cannot be asked. -/
def nodesReady (address : String) (expected : Nat) : Action Bool :=
  tryCatch (do return decide (expected ≤ (← Service.nomadReady address))) fun _ => pure false

/-- Creates the nodes of the cluster and waits for them. -/
def bringUp (settings : Settings) (r : Resource) (spec : NomadSpec) : Action Unit := do
  let fqdn := Cluster.Nomad.serverFqdn r
  let port ← allocatePort r
  startNode settings r fqdn ("server." ++ r.name) (Cluster.Nomad.serverSpec spec port)
  startClients settings r (Cluster.Nomad.clientSpec spec fqdn) (Cluster.Nomad.clientNumbers spec)
  poll (.ofSettings settings) r.label "readiness"
    (nodesReady s!"http://{settings.publishedHost}:{port}" (spec.clientNodes.toNat + 1))

/-- Creates the cluster, unless its server exists. -/
def create (settings : Settings) (r : Resource) (spec : NomadSpec) : Action Unit := do
  let existing ← lookup r
  if existing.isEmpty then bringUp settings r spec
  else refuse r.label "pre-check" (.alreadyExists "cluster" (Cluster.Nomad.serverFqdn r))

/-- Removes the nodes of the cluster. -/
def destroy (r : Resource) (spec : NomadSpec) : Action Unit :=
  Container.removeAll r.label (Cluster.Nomad.serverFqdn r :: Cluster.Nomad.clientFqdns r spec)

end Moorage.Provider.NomadCluster
