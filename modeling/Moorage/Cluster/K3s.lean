import Moorage.Container

/-!
# `Moorage.Cluster.K3s`: the containers of a Kubernetes cluster

A cluster is one server and, for every further node, an agent that joins it.

* `serverSpec`, `agentSpec`: the configurations of the two kinds of node.
* `serverFqdn`, `agentFqdns`: the names of the nodes.
-/

set_option autoImplicit false

namespace Moorage.Cluster.K3s

/-- The only driver there is. -/
def driver : String := "k3s"

/-- The host ports of a cluster: its interface and its two node ports. -/
structure ServerPorts where
  api : UInt16
  nodes : UInt16 × UInt16
  deriving DecidableEq, Repr, Inhabited

/-- The name of a cluster's server. -/
def serverFqdn (cluster : Resource) : String := "server." ++ cluster.fqdn

/-- The number of agents: a cluster has its server even if it asks for no
node. -/
def agentCount (spec : K8sSpec) : Nat := max spec.nodes.toNat 1 - 1

/-- The name of an agent, counted from one. -/
def agentFqdn (cluster : Resource) (number : Nat) : String := s!"agent-{number}.{cluster.fqdn}"

/-- The numbers of the agents. -/
def agentNumbers (spec : K8sSpec) : List Nat := List.range' 1 (agentCount spec)

/-- The agents are numbered from one. With the server, which has no number, there are
as many nodes as the cluster asks for, or one if it asks for none. -/
theorem agentNumbers_eq (spec : K8sSpec) :
    agentNumbers spec = List.range' 1 (max spec.nodes.toNat 1 - 1) := rfl

/-- A number is that of an agent if it is at least one and below the number of
nodes. -/
theorem mem_agentNumbers {spec : K8sSpec} {number : Nat} :
    number ∈ agentNumbers spec ↔ 1 ≤ number ∧ number < spec.nodes.toNat := by
  rw [agentNumbers_eq, List.mem_range'_1]
  omega

/-- The names of the agents. -/
def agentFqdns (cluster : Resource) (spec : K8sSpec) : List String :=
  (agentNumbers spec).map (agentFqdn cluster)

/-- The names of the agents in full, in the order of their numbers. -/
theorem agentFqdns_eq (cluster : Resource) (spec : K8sSpec) :
    agentFqdns cluster spec =
      (List.range' 1 (max spec.nodes.toNat 1 - 1)).map fun number =>
        s!"agent-{number}.{cluster.fqdn}" := rfl

/-- The image of the nodes. -/
def image (spec : K8sSpec) : String :=
  Naming.k3sImage ++ ":" ++ spec.version.getD Naming.k3sVersion

/-- The volumes of a node: the staged images, then the declared ones. -/
def volumes (spec : K8sSpec) : List Volume :=
  { source := Naming.volume Naming.imagesVolume, destination := Naming.imagesMount,
    kind := .volume } :: spec.volumes

/-- The configuration of the server. Its own ports are published before the
declared ones. -/
def serverSpec (spec : K8sSpec) (ports : ServerPorts) (fqdn token : String) : ContainerSpec where
  image := .ofName (image spec)
  networks := spec.networks
  command := ["server", s!"--https-listen-port={ports.api}", "--disable=traefik",
    "--tls-san=" ++ fqdn, "--token=" ++ token]
  env := spec.env.insert "K3S_KUBECONFIG_OUTPUT" Naming.k3sKubeconfigPath
  volumes := volumes spec
  ports := [Port.published ports.api ports.api,
    Port.published (UInt16.ofNat Naming.nodePorts.1) ports.nodes.1,
    Port.published (UInt16.ofNat Naming.nodePorts.2) ports.nodes.2] ++ spec.ports
  portRanges := spec.portRanges
  privileged := true

/-- The configuration of an agent, which joins the server at its interface. -/
def agentSpec (spec : K8sSpec) (apiPort : UInt16) (fqdn token : String) : ContainerSpec where
  image := .ofName (image spec)
  networks := spec.networks
  command := ["agent", s!"--server=https://{fqdn}:{apiPort}", "--token=" ++ token]
  env := spec.env
  volumes := volumes spec
  privileged := true

end Moorage.Cluster.K3s
