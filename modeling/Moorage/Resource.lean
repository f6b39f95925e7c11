import Moorage.Error
import Moorage.Naming
import Moorage.Text.Blank
import Moorage.Text.Digits

/-!
# `Moorage.Resource`: declared resources and their configuration

* `Spec`: the configuration of a resource, one case for each type.
* `Resource`: an address, explicit dependencies and a configuration.
* `Resource.dependencyReferences`: every reference that a resource waits for,
  the implied ones included.
* `PortRange.bounds`: the ports that a range names.
-/

set_option autoImplicit false

namespace Moorage

/-- Text values under text keys, in the order of the keys. -/
abbrev TextMap := List (String × String)

/-- The map with the value under the key, in place of an earlier value. -/
def TextMap.insert (key value : String) : TextMap → TextMap
  | [] => [(key, value)]
  | (k, v) :: rest =>
      if key < k then (key, value) :: (k, v) :: rest
      else if key = k then (key, value) :: rest
      else (k, v) :: TextMap.insert key value rest

/-- The map of a list of pairs; of two values under one key the later counts. -/
def TextMap.ofList (pairs : List (String × String)) : TextMap :=
  pairs.foldl (fun map pair => TextMap.insert pair.1 pair.2 map) []

/-- An image with the credentials of its registry. -/
structure Image where
  name : String := ""
  username : Option String := none
  password : Option String := none
  deriving DecidableEq, Repr, Inhabited

/-- The attachment of a resource to a declared network. -/
structure NetworkAttachment where
  name : String := ""
  ipAddress : Option String := none
  aliases : List String := []
  deriving DecidableEq, Repr, Inhabited

/-- The kinds of volume. -/
inductive VolumeKind where
  | bind
  | volume
  | tmpfs
  deriving DecidableEq, Repr, Inhabited

/-- The word for a kind of volume. -/
def VolumeKind.keyword : VolumeKind → String
  | .bind => "bind"
  | .volume => "volume"
  | .tmpfs => "tmpfs"

/-- How mounts spread between a bind mount and its source. -/
inductive Propagation where
  | shared
  | slave
  | privateMount
  | rshared
  | rslave
  | rprivate
  deriving DecidableEq, Repr, Inhabited

/-- The word for a propagation mode. -/
def Propagation.keyword : Propagation → String
  | .shared => "shared"
  | .slave => "slave"
  | .privateMount => "private"
  | .rshared => "rshared"
  | .rslave => "rslave"
  | .rprivate => "rprivate"

/-- A volume mounted into a container. -/
structure Volume where
  source : String := ""
  destination : String := ""
  kind : VolumeKind := .bind
  readOnly : Bool := false
  propagation : Option Propagation := none
  nonRecursive : Bool := false
  deriving DecidableEq, Repr, Inhabited

/-- The transport protocols of a port. -/
inductive Protocol where
  | tcp
  | udp
  deriving DecidableEq, Repr, Inhabited, Hashable

/-- The word for a protocol. -/
def Protocol.keyword : Protocol → String
  | .tcp => "tcp"
  | .udp => "udp"

/-- A port of a container and the host port that it is published on. -/
structure Port where
  containerPort : UInt16 := 0
  hostPort : Option UInt16 := none
  protocol : Protocol := .tcp
  deriving DecidableEq, Repr, Inhabited

/-- A TCP port published on a host port. -/
def Port.published (port host : UInt16) : Port := { containerPort := port, hostPort := some host }

/-- A range of ports in `start-end` form. -/
structure PortRange where
  range : String := ""
  enableHost : Bool := false
  protocol : Protocol := .tcp
  deriving DecidableEq, Repr, Inhabited

/-- A port number written in decimal, blanks around it allowed. -/
def portNumber? (text : List Char) : Option UInt16 :=
  (Text.unsigned? 65535 (Text.trim text)).map UInt16.ofNat

/-- The first and the last port of a range, when the range is written as it
should be and does not run backwards. -/
def PortRange.bounds? (range : String) : Option (UInt16 × UInt16) := do
  let (first, last) ← Text.cutFirst '-' range.toList
  let first ← portNumber? first
  let last ← portNumber? last
  if first ≤ last then some (first, last) else none

/-- The first and the last port of the range. -/
def PortRange.bounds (r : PortRange) : Except ConfigFault (UInt16 × UInt16) :=
  match PortRange.bounds? r.range with
  | some bounds => .ok bounds
  | none => .error (.portRange r.range)

/-- The limits of a container: processor share in thousandths of a core, the
cores it may use, and memory in MiB. -/
structure Limits where
  cpu : Option UInt32 := none
  cpuPin : List UInt32 := []
  memory : Option UInt64 := none
  deriving DecidableEq, Repr, Inhabited

/-- The configuration of a network. -/
structure NetworkSpec where
  subnet : String := ""
  deriving DecidableEq, Repr, Inhabited

/-- The configuration of a container. -/
structure ContainerSpec where
  networks : List NetworkAttachment := []
  image : Image := {}
  entrypoint : List String := []
  command : List String := []
  env : TextMap := []
  volumes : List Volume := []
  ports : List Port := []
  portRanges : List PortRange := []
  dns : List String := []
  privileged : Bool := false
  limits : Option Limits := none
  deriving DecidableEq, Repr, Inhabited

/-- The configuration of a Kubernetes cluster. -/
structure K8sSpec where
  driver : String := "k3s"
  version : Option String := none
  nodes : UInt32 := 1
  networks : List NetworkAttachment := []
  images : List Image := []
  ports : List Port := []
  portRanges : List PortRange := []
  volumes : List Volume := []
  env : TextMap := []
  deriving DecidableEq, Repr, Inhabited

/-- The configuration of a Nomad cluster. -/
structure NomadSpec where
  version : Option String := none
  clientNodes : UInt32 := 0
  networks : List NetworkAttachment := []
  env : TextMap := []
  volumes : List Volume := []
  deriving DecidableEq, Repr, Inhabited

/-- The pods that have to be ready after an installation. -/
structure HealthCheck where
  timeout : Option UInt64 := none
  pods : List String := []
  deriving DecidableEq, Repr, Inhabited

/-- The configuration of a Helm release. -/
structure HelmSpec where
  cluster : String := ""
  chart : String := ""
  values : Option String := none
  valuesString : TextMap := []
  namespaceName : String := "default"
  createNamespace : Bool := false
  healthCheck : Option HealthCheck := none
  deriving DecidableEq, Repr, Inhabited

/-- The configuration of an ingress proxy. -/
structure IngressSpec where
  target : String := ""
  service : Option String := none
  port : UInt16 := 0
  localPort : UInt16 := 0
  networks : List NetworkAttachment := []
  deriving DecidableEq, Repr, Inhabited

/-- The configuration of a documentation site. -/
structure DocsSpec where
  path : String := ""
  port : UInt16 := 8080
  image : Option Image := none
  networks : List NetworkAttachment := []
  deriving DecidableEq, Repr, Inhabited

/-- The configuration of a resource. -/
inductive Spec where
  | network (spec : NetworkSpec)
  | container (spec : ContainerSpec)
  | k8sCluster (spec : K8sSpec)
  | nomadCluster (spec : NomadSpec)
  | helm (spec : HelmSpec)
  | ingress (spec : IngressSpec)
  | docs (spec : DocsSpec)
  deriving DecidableEq, Repr, Inhabited

/-- The type of resource that a configuration belongs to. -/
def Spec.type : Spec → ResourceType
  | .network _ => .network
  | .container _ => .container
  | .k8sCluster _ => .k8sCluster
  | .nomadCluster _ => .nomadCluster
  | .helm _ => .helm
  | .ingress _ => .ingress
  | .docs _ => .docs

/-- The networks that a configuration attaches to. -/
def Spec.networks : Spec → List NetworkAttachment
  | .network _ | .helm _ => []
  | .container c => c.networks
  | .k8sCluster c => c.networks
  | .nomadCluster c => c.networks
  | .ingress c => c.networks
  | .docs c => c.networks

/-- The references that a configuration names: its networks, then the cluster of
a Helm release or the target of an ingress. -/
def Spec.references (spec : Spec) : List String :=
  spec.networks.map NetworkAttachment.name ++
    match spec with
    | .helm c => [c.cluster]
    | .ingress c => [c.target]
    | _ => []

/-- The stages of a resource's life. -/
inductive Status where
  | pending
  | creating
  | applied
  | disabled
  | failed
  | destroyed
  deriving DecidableEq, Repr, Inhabited

namespace Status

/-- Every status, in the order of a resource's life. -/
def all : List Status := [pending, creating, applied, disabled, failed, destroyed]

/-- The word for a status. -/
def word : Status → String
  | pending => "pending"
  | creating => "creating"
  | applied => "applied"
  | disabled => "disabled"
  | failed => "failed"
  | destroyed => "destroyed"

/-- The position of a status in `all`. -/
def index (status : Status) : Nat := all.idxOf status

end Status

/-- A declared resource. -/
structure Resource where
  name : String
  moduleName : Option String := none
  dependsOn : List String := []
  spec : Spec
  isDisabled : Bool := false
  deriving DecidableEq, Repr, Inhabited

namespace Resource

/-- The type of the resource. -/
def type (r : Resource) : ResourceType := r.spec.type

/-- The address of the resource. -/
def reference (r : Resource) : Reference :=
  { type := r.type, name := r.name, moduleName := r.moduleName }

/-- The text of the resource's address. -/
def label (r : Resource) : String := r.reference.text

/-- The fully qualified name of the resource's runtime objects. -/
def fqdn (r : Resource) : String := Naming.fqdn r.name r.type.keyword

/-- The status that the resource starts in. -/
def initialStatus (r : Resource) : Status := if r.isDisabled then .disabled else .pending

/-- The explicit dependencies and the references of the configuration, without
empty ones and without repetitions. -/
def dependencyReferences (r : Resource) : List String :=
  (r.dependsOn ++ r.spec.references).foldl
    (fun seen text => if text = "" ∨ text ∈ seen then seen else seen ++ [text]) []

end Resource

end Moorage
