import Moorage.Health
import Moorage.Target

/-!
# `Moorage.Provider.Helm`: Helm releases

A release goes to the cluster whose local kubeconfig it uses. Without that file
there is no cluster, and so nothing to remove.
-/

set_option autoImplicit false

namespace Moorage.Provider.Helm

open Service (within refuse)

/-- The kubeconfig of the release's cluster. -/
def kubeconfig (settings : Settings) (spec : HelmSpec) : Action String :=
  ExceptT.mk (pure (Target.releaseKubeconfig settings.cacheDir spec))

/-- The release to install. -/
def releaseOf (r : Resource) (spec : HelmSpec) (file : String) : Release where
  name := r.name
  chart := spec.chart
  namespaceName := spec.namespaceName
  createNamespace := spec.createNamespace
  values := spec.values
  valuesString := spec.valuesString
  kubeconfig := file

/-- The policy of a health check, which may have its own timeout in seconds. -/
def policyOf (settings : Settings) (check : HealthCheck) : PollPolicy :=
  match check.timeout with
  | none => .ofSettings settings
  | some secs => { PollPolicy.ofSettings settings with deadline := .ofSecs secs.toNat }

/-- Waits for the pods of the release. -/
def checkHealth (settings : Settings) (r : Resource) (file : String) (check : HealthCheck) :
    Action Unit := do
  let access ← within r.label "health check" (Service.kubernetesConnect file)
  Health.waitForPods access (policyOf settings check) r.label (Health.selectorsOrAll check.pods)

/-- Installs the release, and waits for its pods if it asks for that. -/
def create (settings : Settings) (r : Resource) (spec : HelmSpec) : Action Unit := do
  let file ← within r.label "validate" (kubeconfig settings spec)
  within r.label "helm install" (Service.helmInstall (releaseOf r spec file))
  match spec.healthCheck with
  | none => pure ()
  | some check => checkHealth settings r file check

/-- Whether the kubeconfig of the release's cluster exists. One that cannot be looked
for counts as missing. -/
def clusterExists (file : String) : Action Bool := do
  return (← Service.pathExists file).toOption.getD false

/-- Removes the release. One that is gone already is no failure. -/
def destroy (settings : Settings) (r : Resource) (spec : HelmSpec) : Action Unit := do
  let file ← within r.label "validate" (kubeconfig settings spec)
  if ← clusterExists file then
    tryCatch (Service.helmUninstall file r.name spec.namespaceName) fun error =>
      if error.isNotFound then pure () else refuse r.label "helm uninstall" error
  else pure ()

/-- The release, as far as its cluster's kubeconfig exists. -/
def lookup (settings : Settings) (r : Resource) (spec : HelmSpec) : Action (List String) := do
  let file ← kubeconfig settings spec
  if ← clusterExists file then return [r.name] else return []

end Moorage.Provider.Helm
