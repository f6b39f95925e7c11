import Moorage.Resource

/-!
# `Moorage.Target`: what references stand for at run time

A reference in a configuration stands for the name of a runtime object: the
network that is attached, the host that a proxy forwards to, the kubeconfig of
the cluster that a release goes to.
-/

set_option autoImplicit false

namespace Moorage.Target

/-- The engine's name of the network that a reference means. -/
def networkName (reference : String) : Except Error String := do
  let r ← Reference.parse reference
  if r.type = .network then return r.name
  else throw (.invalidReference reference .notNetwork)

/-- The host name of the container that answers for a resource: a cluster's
server, or the resource's own container. -/
def host (r : Reference) : String :=
  let fqdn := Naming.fqdn r.name r.type.keyword
  match r.type with
  | .k8sCluster | .nomadCluster => "server." ++ fqdn
  | _ => fqdn

/-- The host that an ingress forwards to: its service if it names one, else the
host of its target. -/
def ingressHost (spec : IngressSpec) : Except Error String := do
  match spec.service with
  | some service => return service
  | none => return host (← Reference.parse spec.target)

/-- The kubeconfig of the cluster that a release goes to, below the cache
directory. -/
def releaseKubeconfig (cache : String) (spec : HelmSpec) : Except Error String := do
  let r ← Reference.parse spec.cluster
  if r.type = .k8sCluster then return Naming.localKubeconfig cache r.name
  else throw (.invalidReference spec.cluster .notCluster)

end Moorage.Target
