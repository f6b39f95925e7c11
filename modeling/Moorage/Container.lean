import Moorage.Resource

/-!
# `Moorage.Container`: a container to be created

What a provider asks for when it wants one container: a configuration, and the
names that the container and its errors carry.
-/

set_option autoImplicit false

namespace Moorage

/-- A container that a provider asks for. -/
structure Container where
  /-- The resource that errors name. -/
  owner : String
  /-- The container's name, which its label repeats. -/
  fqdn : String
  /-- The name that the host name is made of. -/
  name : String
  type : ResourceType
  spec : ContainerSpec
  deriving DecidableEq, Repr, Inhabited

/-- The container of a resource that has just one. -/
def Container.ofResource (r : Resource) (spec : ContainerSpec) : Container where
  owner := r.label
  fqdn := r.fqdn
  name := r.name
  type := r.type
  spec := spec

/-- An image without credentials. -/
def Image.ofName (name : String) : Image := { name := name }

end Moorage
