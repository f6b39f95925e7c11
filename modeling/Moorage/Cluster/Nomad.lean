import Moorage.Container

/-!
# `Moorage.Cluster.Nomad`: the containers of a Nomad cluster

A cluster is one server and the client nodes that join it.
-/

set_option autoImplicit false

namespace Moorage.Cluster.Nomad

/-- The port on which clients join the server. -/
def rpcPort : Nat := 4647

/-- The name of a cluster's server. -/
def serverFqdn (cluster : Resource) : String := "server." ++ cluster.fqdn

/-- The name of a client node, counted from one. -/
def clientFqdn (cluster : Resource) (number : Nat) : String :=
  s!"client-{number}.{cluster.fqdn}"

/-- The numbers of the client nodes. -/
def clientNumbers (spec : NomadSpec) : List Nat := List.range' 1 spec.clientNodes.toNat

/-- The names of the client nodes. -/
def clientFqdns (cluster : Resource) (spec : NomadSpec) : List String :=
  (clientNumbers spec).map (clientFqdn cluster)

/-- The image of the nodes. -/
def image (spec : NomadSpec) : String :=
  Naming.nomadImage ++ ":" ++ spec.version.getD Naming.nomadVersion

/-- The configuration of a node with the given command and ports. -/
def nodeSpec (spec : NomadSpec) (command : List String) (ports : List Port) : ContainerSpec where
  image := .ofName (image spec)
  networks := spec.networks
  command := command
  env := spec.env
  volumes := spec.volumes
  ports := ports
  privileged := true

/-- The configuration of the server, whose interface is published. -/
def serverSpec (spec : NomadSpec) (apiPort : UInt16) : ContainerSpec :=
  nodeSpec spec ["agent", "-dev", "-bind=0.0.0.0"]
    [Port.published (UInt16.ofNat Naming.nomadApiPort) apiPort]

/-- The configuration of a client node of the server. -/
def clientSpec (spec : NomadSpec) (fqdn : String) : ContainerSpec :=
  nodeSpec spec ["agent", "-client", "-data-dir=/nomad/data", s!"-servers={fqdn}:{rpcPort}"] []

end Moorage.Cluster.Nomad
