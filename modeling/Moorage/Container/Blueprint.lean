import Std.Data.HashMap
import Std.Data.HashSet
import Moorage.Container
import Moorage.Json

/-!
# `Moorage.Container.Blueprint`: a container as the engine is asked for it

* `Blueprint.ofContainer`: the blueprint of a container.
* `ContainerSpec.publications`: the ports that a configuration exposes and binds,
  in order; of several bindings of one port the last counts.
* `Blueprint.json`: the blueprint as the body of a request.
-/

set_option autoImplicit false

namespace Moorage

/-- A port of a container together with its protocol. -/
structure Endpoint where
  port : UInt16
  protocol : Protocol
  deriving DecidableEq, Hashable, Repr, Inhabited

/-- The text of an endpoint. -/
def Endpoint.text (e : Endpoint) : String := s!"{e.port}/{e.protocol.keyword}"

/-- An endpoint that is exposed, and the host port that it is bound to. -/
structure Publication where
  endpoint : Endpoint
  hostPort : Option UInt16
  deriving DecidableEq, Repr

/-- The publication of one port. -/
def Port.publication (p : Port) : Publication :=
  { endpoint := ⟨p.containerPort, p.protocol⟩, hostPort := p.hostPort }

/-- The publications of a range, bound to the same ports of the host if the range
says so. -/
def PortRange.publications (r : PortRange) : Except ConfigFault (List Publication) := do
  let (first, last) ← r.bounds
  return (List.range' first.toNat (last.toNat + 1 - first.toNat)).map fun n =>
    { endpoint := ⟨UInt16.ofNat n, r.protocol⟩,
      hostPort := if r.enableHost then some (UInt16.ofNat n) else none }

/-- The publications of a configuration: its ports, then its ranges. -/
def ContainerSpec.publications (spec : ContainerSpec) : Except ConfigFault (List Publication) := do
  return spec.ports.map Port.publication ++ (← spec.portRanges.mapM PortRange.publications).flatten

/-- How a bind mount is made. -/
structure BindOptions where
  propagation : Option Propagation
  nonRecursive : Bool
  deriving DecidableEq, Repr

/-- A mount of a container. Only volumes and bind mounts have a source. -/
structure Mount where
  kind : VolumeKind
  target : String
  source : Option String
  readOnly : Bool
  options : Option BindOptions
  deriving DecidableEq, Repr

/-- The mount of a volume. The source of a bind mount must be absolute. -/
def Volume.mount (v : Volume) : Except ConfigFault Mount :=
  match v.kind with
  | .bind =>
      if Path.isAbsolute v.source then
        .ok { kind := .bind, target := v.destination, source := some v.source,
              readOnly := v.readOnly,
              options := some { propagation := v.propagation, nonRecursive := v.nonRecursive } }
      else .error (.relativeSource v.source)
  | .volume =>
      .ok { kind := .volume, target := v.destination, source := some v.source,
            readOnly := v.readOnly, options := none }
  | .tmpfs =>
      .ok { kind := .tmpfs, target := v.destination, source := none,
            readOnly := v.readOnly, options := none }

/-- A processor share in billionths of a core. -/
def Limits.nanoCpus (l : Limits) : Option Nat := l.cpu.map fun cpu => cpu.toNat * 1000000

/-- A memory limit in bytes, as long as it is a positive number of 64 bits. -/
def Limits.memoryBytes (l : Limits) : Option Nat :=
  (l.memory.map fun mib => mib.toNat * Nat.pow 2 20).filter (· < Nat.pow 2 63)

/-- A container as the engine is asked for it. -/
structure Blueprint where
  image : String
  hostname : String
  entrypoint : List String
  command : List String
  env : List String
  labels : TextMap
  exposed : Std.HashSet Endpoint
  bindings : Std.HashMap Endpoint UInt16
  mounts : List Mount
  privileged : Bool
  dns : List String
  nanoCpus : Option Nat
  cpuPin : List UInt32
  memory : Option Nat

namespace Blueprint

/-- The endpoints of publications. -/
def exposedBy (publications : List Publication) : Std.HashSet Endpoint :=
  publications.foldl (fun set p => set.insert p.endpoint) ∅

/-- The host ports that publications bind. -/
def boundBy (publications : List Publication) : Std.HashMap Endpoint UInt16 :=
  publications.foldl
    (fun map p =>
      match p.hostPort with
      | some host => map.insert p.endpoint host
      | none => map)
    ∅

/-- The host name that a container gets from its name: a dot would end it. -/
def hostnameOf (name : String) : String :=
  String.ofList (name.toList.map fun c => if c = '.' then '-' else c)

/-- The labels that mark a container as managed. -/
def labelsOf (c : Container) : TextMap :=
  TextMap.ofList [(Naming.labelFqdn, c.fqdn), (Naming.labelType, c.type.keyword),
    (Naming.labelName, c.name)]

/-- A refused configuration as the failure of the container's owner. -/
def refusal (c : Container) (fault : ConfigFault) : Error :=
  .provider c.owner "runtime spec" (.config fault)

/-- The blueprint of a container. Its ports are read before its mounts. -/
def ofContainer (c : Container) : Except Error Blueprint := do
  let publications ← c.spec.publications.mapError fun fault => refusal c (.within fault)
  let mounts ← (c.spec.volumes.mapM Volume.mount).mapError (refusal c)
  let limits := c.spec.limits.getD {}
  return {
    image := c.spec.image.name
    hostname := hostnameOf c.name
    entrypoint := c.spec.entrypoint
    command := c.spec.command
    env := c.spec.env.map fun (key, value) => key ++ "=" ++ value
    labels := labelsOf c
    exposed := exposedBy publications
    bindings := boundBy publications
    mounts := mounts
    privileged := c.spec.privileged
    dns := c.spec.dns
    nanoCpus := limits.nanoCpus
    cpuPin := limits.cpuPin
    memory := limits.memoryBytes }

/-- A list under a key, left out when it is empty. -/
def listMember (key : String) (items : List String) : List (String × Json) :=
  if items.isEmpty then [] else [(key, Json.strings items)]

/-- The options of a bind mount as an object of what they set. -/
def optionsJson (o : BindOptions) : Json :=
  .object <|
    Json.optional "Propagation" (o.propagation.map fun p => .string p.keyword)
      ++ (if o.nonRecursive then [("NonRecursive", .boolean true)] else [])

/-- A mount as an object. -/
def mountJson (m : Mount) : Json :=
  .object <|
    [("Target", .string m.target), ("Type", .string m.kind.keyword),
      ("ReadOnly", .boolean m.readOnly)]
      ++ Json.optional "Source" (m.source.map .string)
      ++ Json.optional "BindOptions" (m.options.map optionsJson)

/-- The host's side of a bound endpoint: every address of the host. -/
def bindingJson (host : UInt16) : Json :=
  .array [.object [("HostIp", .string "0.0.0.0"), ("HostPort", .string (toString host))]]

/-- The settings that concern the host. -/
def hostJson (b : Blueprint) : Json :=
  .object <|
    [("PortBindings", .object (b.bindings.toList.map fun (e, host) => (e.text, bindingJson host))),
      ("Mounts", .array (b.mounts.map mountJson)),
      ("Privileged", .boolean b.privileged)]
      ++ listMember "Dns" b.dns
      ++ Json.optional "NanoCpus" (b.nanoCpus.map fun n => .integer n)
      ++ (if b.cpuPin.isEmpty then []
          else [("CpusetCpus", .string (String.intercalate "," (b.cpuPin.map toString)))])
      ++ Json.optional "Memory" (b.memory.map fun n => .integer n)

/-- The blueprint as the body of a request. Lists that are empty are left out
where the engine would take them for a choice. -/
def json (b : Blueprint) : Json :=
  .object <|
    [("Image", .string b.image), ("Hostname", .string b.hostname)]
      ++ listMember "Entrypoint" b.entrypoint
      ++ listMember "Cmd" b.command
      ++ [("Env", Json.strings b.env),
        ("Labels", .object (b.labels.map fun (key, value) => (key, .string value))),
        ("ExposedPorts", .object (b.exposed.toList.map fun e => (e.text, .object []))),
        ("HostConfig", hostJson b)]

end Blueprint

end Moorage
