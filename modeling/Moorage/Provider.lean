import Moorage.Provider.Helm
import Moorage.Provider.K8sCluster
import Moorage.Provider.Network
import Moorage.Provider.NomadCluster
import Moorage.Provider.Single

/-!
# `Moorage.Provider`: what is done for a resource

Every type of resource is created, destroyed and looked up in its own way.
-/

set_option autoImplicit false

namespace Moorage.Provider

/-- Creates the runtime objects of a resource. -/
def create (settings : Settings) (r : Resource) : Action Unit :=
  match r.spec with
  | .network spec => Network.create r spec
  | .container spec => Single.create settings r spec
  | .k8sCluster spec => K8sCluster.create settings r spec
  | .nomadCluster spec => NomadCluster.create settings r spec
  | .helm spec => Helm.create settings r spec
  | .ingress spec => Single.createIngress settings r spec
  | .docs spec => Single.createDocs settings r spec

/-- Destroys the runtime objects of a resource. -/
def destroy (settings : Settings) (r : Resource) : Action Unit :=
  match r.spec with
  | .network _ => Network.destroy r
  | .container _ | .ingress _ | .docs _ => Single.destroy r
  | .k8sCluster spec => K8sCluster.destroy settings r spec
  | .nomadCluster spec => NomadCluster.destroy r spec
  | .helm spec => Helm.destroy settings r spec

/-- The names of the runtime objects of a resource. -/
def lookup (settings : Settings) (r : Resource) : Action (List String) :=
  match r.spec with
  | .network _ => Network.lookup r
  | .container _ | .ingress _ | .docs _ => Single.lookup r
  | .k8sCluster _ => K8sCluster.lookup r
  | .nomadCluster _ => NomadCluster.lookup r
  | .helm spec => Helm.lookup settings r spec

end Moorage.Provider
