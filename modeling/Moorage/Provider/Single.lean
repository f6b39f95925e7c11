import Moorage.Container.Lifecycle

/-!
# `Moorage.Provider.Single`: resources of a single container

Containers, ingress proxies and documentation sites differ in the configuration
of their container alone.

* `proxySpec`: the container of an ingress, which forwards a port to its target.
* `siteSpec`: the container of a documentation site.
-/

set_option autoImplicit false

namespace Moorage.Provider.Single

open Service (within refuse)

/-- Creates the container of a resource. -/
def create (settings : Settings) (r : Resource) (spec : ContainerSpec) : Action Unit := do
  let _ ← Container.create settings (.ofResource r spec)

/-- Removes the container of a resource. -/
def destroy (r : Resource) : Action Unit := Container.removeAll r.label [r.fqdn]

/-- The container of a resource. -/
def lookup (r : Resource) : Action (List String) := Container.idsOf r.label r.fqdn

/-- The container of an ingress that forwards to a host. -/
def proxySpec (spec : IngressSpec) (host : String) : ContainerSpec where
  image := .ofName Naming.ingressImage
  networks := spec.networks
  command := [s!"TCP-LISTEN:{spec.port},fork,reuseaddr", s!"TCP:{host}:{spec.port}"]
  ports := [Port.published spec.port spec.localPort]

/-- Creates the proxy of an ingress. -/
def createIngress (settings : Settings) (r : Resource) (spec : IngressSpec) : Action Unit := do
  let host ← within r.label "validate" (ExceptT.mk (pure (Target.ingressHost spec)))
  create settings r (proxySpec spec host)

/-- The container of a documentation site, which serves a directory. -/
def siteSpec (spec : DocsSpec) : ContainerSpec where
  image := spec.image.getD (.ofName Naming.docsImage)
  networks := spec.networks
  volumes := [{ source := spec.path, destination := "/usr/share/nginx/html", readOnly := true }]
  ports := [Port.published 80 spec.port]

/-- Creates the container of a documentation site, whose directory must exist. -/
def createDocs (settings : Settings) (r : Resource) (spec : DocsSpec) : Action Unit := do
  if ← Service.isDirectory spec.path then create settings r (siteSpec spec)
  else refuse r.label "validate" (.notFound "directory" spec.path)

end Moorage.Provider.Single
