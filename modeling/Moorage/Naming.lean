import Moorage.Path

/-!
# `Moorage.Naming`: names of runtime objects

The fixed names of the system: the domain of every managed object, the labels
that mark it, the images and ports of the clusters, and the files of a cluster's
configuration.
-/

set_option autoImplicit false

namespace Moorage.Naming

/-- The domain below which every managed object is named. -/
def domain : String := "berth.run"

/-- The fully qualified name of a managed object. -/
def fqdn (name kind : String) : String := s!"{name}.{kind}.{domain}"

/-- The fully qualified name of a named volume. -/
def volume (name : String) : String := fqdn name "volume"

/-- The label that carries the fully qualified name of a container. -/
def labelFqdn : String := "run.berth.fqdn"

/-- The label that carries the type of a container's resource. -/
def labelType : String := "run.berth.type"

/-- The label that carries the name of a container's resource. -/
def labelName : String := "run.berth.name"

/-- The volume that stages images for a cluster. -/
def imagesVolume : String := "images"

/-- Where the images volume is mounted in cluster nodes. -/
def imagesMount : String := "/images"

/-- The first host port that clusters are given. -/
def highPortStart : Nat := 64000

/-- The node ports that every k3s server publishes. -/
def nodePorts : Nat × Nat := (30000, 30001)

/-- The image of a k3s node. -/
def k3sImage : String := "rancher/k3s"

/-- The k3s version of a cluster that declares none. -/
def k3sVersion : String := "v1.31.4-k3s1"

/-- The log line of a k3s server whose node agent runs. -/
def k3sReadyMarker : String := "Running kubelet"

/-- Where a k3s server writes its kubeconfig. -/
def k3sKubeconfigPath : String := "/output/kubeconfig.yaml"

/-- The file name of the kubeconfig for the host. -/
def kubeconfigFile : String := "kubeconfig.yaml"

/-- The file name of the kubeconfig for the container networks. -/
def kubeconfigDockerFile : String := "kubeconfig-docker.yaml"

/-- The image of a Nomad node. -/
def nomadImage : String := "hashicorp/nomad"

/-- The Nomad version of a cluster that declares none. -/
def nomadVersion : String := "1.9.4"

/-- The port of a Nomad agent's HTTP interface. -/
def nomadApiPort : Nat := 4646

/-- The image of an ingress proxy. -/
def ingressImage : String := "alpine/socat:latest"

/-- The image that serves documentation. -/
def docsImage : String := "nginx:alpine"

/-- The image of short-lived helper containers. -/
def helperImage : String := "alpine:latest"

/-- The directory of a cluster's configuration below the cache directory. -/
def clusterDir (cache cluster : String) : String := Path.join cache cluster

/-- The kubeconfig of a cluster for the host. -/
def localKubeconfig (cache cluster : String) : String :=
  Path.join (clusterDir cache cluster) kubeconfigFile

/-- The kubeconfig of a cluster for the container networks. -/
def dockerKubeconfig (cache cluster : String) : String :=
  Path.join (clusterDir cache cluster) kubeconfigDockerFile

end Moorage.Naming
