import Moorage.Json
import Moorage.Resource

/-!
# `Moorage.Resource.Json`: configurations as JSON

The configuration of a resource with every field that its type has, defaults filled
in, under the names that documents use.
-/

set_option autoImplicit false

namespace Moorage

/-- A text, or null for want of one. -/
def Json.orNull (text : Option String) : Json := text.elim .null .string

/-- A number. -/
def Json.natural (n : Nat) : Json := .integer n

/-- Texts under text keys. -/
def Json.textMap (map : TextMap) : Json := .object (map.map fun (key, value) => (key, .string value))

/-- An image as JSON. -/
def Image.json (i : Image) : Json :=
  .object [("name", .string i.name), ("username", .orNull i.username),
    ("password", .orNull i.password)]

/-- A network attachment as JSON. -/
def NetworkAttachment.json (n : NetworkAttachment) : Json :=
  .object [("name", .string n.name), ("ip_address", .orNull n.ipAddress),
    ("aliases", .strings n.aliases)]

/-- A volume as JSON. -/
def Volume.json (v : Volume) : Json :=
  .object [("source", .string v.source), ("destination", .string v.destination),
    ("type", .string v.kind.keyword), ("read_only", .boolean v.readOnly),
    ("bind_propagation", .orNull (v.propagation.map Propagation.keyword)),
    ("bind_propagation_non_recursive", .boolean v.nonRecursive)]

/-- A port as JSON. -/
def Port.json (p : Port) : Json :=
  .object [("local", .natural p.containerPort.toNat),
    ("host", p.hostPort.elim .null fun host => .natural host.toNat),
    ("protocol", .string p.protocol.keyword)]

/-- A port range as JSON. -/
def PortRange.json (r : PortRange) : Json :=
  .object [("range", .string r.range), ("enable_host", .boolean r.enableHost),
    ("protocol", .string r.protocol.keyword)]

/-- Limits as JSON. -/
def Limits.json (l : Limits) : Json :=
  .object [("cpu", l.cpu.elim .null fun cpu => .natural cpu.toNat),
    ("cpu_pin", .array (l.cpuPin.map fun core => .natural core.toNat)),
    ("memory", l.memory.elim .null fun memory => .natural memory.toNat)]

/-- Network attachments as a member of a configuration. -/
def networksMember (networks : List NetworkAttachment) : String × Json :=
  ("networks", .array (networks.map NetworkAttachment.json))

/-- Volumes as a member of a configuration. -/
def volumesMember (volumes : List Volume) : String × Json :=
  ("volumes", .array (volumes.map Volume.json))

/-- Ports and port ranges as members of a configuration. -/
def portMembers (ports : List Port) (ranges : List PortRange) : List (String × Json) :=
  [("ports", .array (ports.map Port.json)), ("port_ranges", .array (ranges.map PortRange.json))]

/-- The configuration of a container as JSON. -/
def ContainerSpec.json (c : ContainerSpec) : Json :=
  .object <|
    [networksMember c.networks, ("image", c.image.json), ("entrypoint", .strings c.entrypoint),
      ("command", .strings c.command), ("env", .textMap c.env), volumesMember c.volumes]
      ++ portMembers c.ports c.portRanges
      ++ [("dns", .strings c.dns), ("privileged", .boolean c.privileged),
        ("resources", c.limits.elim .null Limits.json)]

/-- A health check as JSON. -/
def HealthCheck.json (h : HealthCheck) : Json :=
  .object [("timeout", h.timeout.elim .null fun secs => .natural secs.toNat),
    ("pods", .strings h.pods)]

/-- A configuration as JSON. -/
def Spec.json : Spec → Json
  | .network c => .object [("subnet", .string c.subnet)]
  | .container c => c.json
  | .k8sCluster c =>
      .object <|
        [("driver", .string c.driver), ("version", .orNull c.version),
          ("nodes", .natural c.nodes.toNat), networksMember c.networks,
          ("images", .array (c.images.map Image.json)), volumesMember c.volumes,
          ("env", .textMap c.env)]
          ++ portMembers c.ports c.portRanges
  | .nomadCluster c =>
      .object [("version", .orNull c.version), ("client_nodes", .natural c.clientNodes.toNat),
        networksMember c.networks, ("env", .textMap c.env), volumesMember c.volumes]
  | .helm c =>
      .object [("cluster", .string c.cluster), ("chart", .string c.chart),
        ("values", .orNull c.values), ("values_string", .textMap c.valuesString),
        ("namespace", .string c.namespaceName), ("create_namespace", .boolean c.createNamespace),
        ("health_check", c.healthCheck.elim .null HealthCheck.json)]
  | .ingress c =>
      .object [("target", .string c.target), ("service", .orNull c.service),
        ("port", .natural c.port.toNat), ("local_port", .natural c.localPort.toNat),
        networksMember c.networks]
  | .docs c =>
      .object [("path", .string c.path), ("port", .natural c.port.toNat),
        ("image", c.image.elim .null Image.json), networksMember c.networks]

end Moorage
