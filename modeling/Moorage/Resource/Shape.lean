import Moorage.Resource
import Moorage.Yaml.Shape

/-!
# `Moorage.Resource.Shape`: the configuration of resources as data

One reader for each record of a configuration. Every field may be missing and
then has its default.
-/

set_option autoImplicit false

namespace Moorage

open Yaml (Shape)
open Yaml.Shape

/-- An image. -/
def Image.shape : Shape Image :=
  record "Image" {} fun
    | "name" => some (field text fun x v => { x with name := v })
    | "username" => some (field (optional text) fun x v => { x with username := v })
    | "password" => some (field (optional text) fun x v => { x with password := v })
    | _ => none

/-- A network attachment. -/
def NetworkAttachment.shape : Shape NetworkAttachment :=
  record "NetworkAttachment" {} fun
    | "name" => some (field text fun x v => { x with name := v })
    | "ip_address" => some (field (optional text) fun x v => { x with ipAddress := v })
    | "aliases" => some (field (list text) fun x v => { x with aliases := v })
    | _ => none

/-- A kind of volume. -/
def VolumeKind.shape : Shape VolumeKind := Shape.keyword VolumeKind.keyword [.bind, .volume, .tmpfs]

/-- A propagation mode. -/
def Propagation.shape : Shape Propagation :=
  Shape.keyword Propagation.keyword [.shared, .slave, .privateMount, .rshared, .rslave, .rprivate]

/-- A protocol. -/
def Protocol.shape : Shape Protocol := Shape.keyword Protocol.keyword [.tcp, .udp]

/-- A volume. -/
def Volume.shape : Shape Volume :=
  record "Volume" {} fun
    | "source" => some (field text fun x v => { x with source := v })
    | "destination" => some (field text fun x v => { x with destination := v })
    | "type" => some (field VolumeKind.shape fun x v => { x with kind := v })
    | "read_only" => some (field boolean fun x v => { x with readOnly := v })
    | "bind_propagation" =>
        some (field (optional Propagation.shape) fun x v => { x with propagation := v })
    | "bind_propagation_non_recursive" =>
        some (field boolean fun x v => { x with nonRecursive := v })
    | _ => none

/-- A port. -/
def Port.shape : Shape Port :=
  record "Port" {} fun
    | "local" => some (field word16 fun x v => { x with containerPort := v })
    | "host" => some (field (optional word16) fun x v => { x with hostPort := v })
    | "protocol" => some (field Protocol.shape fun x v => { x with protocol := v })
    | _ => none

/-- A port range. -/
def PortRange.shape : Shape PortRange :=
  record "PortRange" {} fun
    | "range" => some (field text fun x v => { x with range := v })
    | "enable_host" => some (field boolean fun x v => { x with enableHost := v })
    | "protocol" => some (field Protocol.shape fun x v => { x with protocol := v })
    | _ => none

/-- The limits of a container. -/
def Limits.shape : Shape Limits :=
  record "Resources" {} fun
    | "cpu" => some (field (optional word32) fun x v => { x with cpu := v })
    | "cpu_pin" => some (field (list word32) fun x v => { x with cpuPin := v })
    | "memory" => some (field (optional word64) fun x v => { x with memory := v })
    | _ => none

/-- A health check. -/
def HealthCheck.shape : Shape HealthCheck :=
  record "HealthCheck" {} fun
    | "timeout" => some (field (optional word64) fun x v => { x with timeout := v })
    | "pods" => some (field (list text) fun x v => { x with pods := v })
    | _ => none

/-- A map of texts. -/
def TextMap.shape : Shape TextMap := fun value => (textPairs value).map TextMap.ofList

/-- The configuration of a network. -/
def NetworkSpec.shape : Shape NetworkSpec :=
  record "NetworkConfig" {} fun
    | "subnet" => some (field text fun x v => { x with subnet := v })
    | _ => none

/-- The configuration of a container. -/
def ContainerSpec.shape : Shape ContainerSpec :=
  record "ContainerConfig" {} fun
    | "networks" =>
        some (field (list NetworkAttachment.shape) fun x v => { x with networks := v })
    | "image" => some (field Image.shape fun x v => { x with image := v })
    | "entrypoint" => some (field (list text) fun x v => { x with entrypoint := v })
    | "command" => some (field (list text) fun x v => { x with command := v })
    | "env" => some (field TextMap.shape fun x v => { x with env := v })
    | "volumes" => some (field (list Volume.shape) fun x v => { x with volumes := v })
    | "ports" => some (field (list Port.shape) fun x v => { x with ports := v })
    | "port_ranges" => some (field (list PortRange.shape) fun x v => { x with portRanges := v })
    | "dns" => some (field (list text) fun x v => { x with dns := v })
    | "privileged" => some (field boolean fun x v => { x with privileged := v })
    | "resources" => some (field (optional Limits.shape) fun x v => { x with limits := v })
    | _ => none

/-- The configuration of a Kubernetes cluster. -/
def K8sSpec.shape : Shape K8sSpec :=
  record "K8sClusterConfig" {} fun
    | "driver" => some (field text fun x v => { x with driver := v })
    | "version" => some (field (optional text) fun x v => { x with version := v })
    | "nodes" => some (field word32 fun x v => { x with nodes := v })
    | "networks" =>
        some (field (list NetworkAttachment.shape) fun x v => { x with networks := v })
    | "images" => some (field (list Image.shape) fun x v => { x with images := v })
    | "ports" => some (field (list Port.shape) fun x v => { x with ports := v })
    | "port_ranges" => some (field (list PortRange.shape) fun x v => { x with portRanges := v })
    | "volumes" => some (field (list Volume.shape) fun x v => { x with volumes := v })
    | "env" => some (field TextMap.shape fun x v => { x with env := v })
    | _ => none

/-- The configuration of a Nomad cluster. -/
def NomadSpec.shape : Shape NomadSpec :=
  record "NomadClusterConfig" {} fun
    | "version" => some (field (optional text) fun x v => { x with version := v })
    | "client_nodes" => some (field word32 fun x v => { x with clientNodes := v })
    | "networks" =>
        some (field (list NetworkAttachment.shape) fun x v => { x with networks := v })
    | "env" => some (field TextMap.shape fun x v => { x with env := v })
    | "volumes" => some (field (list Volume.shape) fun x v => { x with volumes := v })
    | _ => none

/-- The configuration of a Helm release. -/
def HelmSpec.shape : Shape HelmSpec :=
  record "HelmConfig" {} fun
    | "cluster" => some (field text fun x v => { x with cluster := v })
    | "chart" => some (field text fun x v => { x with chart := v })
    | "values" => some (field (optional path) fun x v => { x with values := v })
    | "values_string" => some (field TextMap.shape fun x v => { x with valuesString := v })
    | "namespace" => some (field text fun x v => { x with namespaceName := v })
    | "create_namespace" => some (field boolean fun x v => { x with createNamespace := v })
    | "health_check" =>
        some (field (optional HealthCheck.shape) fun x v => { x with healthCheck := v })
    | _ => none

/-- The configuration of an ingress proxy. -/
def IngressSpec.shape : Shape IngressSpec :=
  record "IngressConfig" {} fun
    | "target" => some (field text fun x v => { x with target := v })
    | "service" => some (field (optional text) fun x v => { x with service := v })
    | "port" => some (field word16 fun x v => { x with port := v })
    | "local_port" => some (field word16 fun x v => { x with localPort := v })
    | "networks" =>
        some (field (list NetworkAttachment.shape) fun x v => { x with networks := v })
    | _ => none

/-- The configuration of a documentation site. -/
def DocsSpec.shape : Shape DocsSpec :=
  record "DocsConfig" {} fun
    | "path" => some (field Shape.path fun x v => { x with path := v })
    | "port" => some (field word16 fun x v => { x with port := v })
    | "image" => some (field (optional Image.shape) fun x v => { x with image := v })
    | "networks" =>
        some (field (list NetworkAttachment.shape) fun x v => { x with networks := v })
    | _ => none

/-- The configuration of a resource of the given type. -/
def Spec.shape : ResourceType → Shape Spec
  | .network => fun value => (NetworkSpec.shape value).map .network
  | .container => fun value => (ContainerSpec.shape value).map .container
  | .k8sCluster => fun value => (K8sSpec.shape value).map .k8sCluster
  | .nomadCluster => fun value => (NomadSpec.shape value).map .nomadCluster
  | .helm => fun value => (HelmSpec.shape value).map .helm
  | .ingress => fun value => (IngressSpec.shape value).map .ingress
  | .docs => fun value => (DocsSpec.shape value).map .docs

end Moorage
