import Moorage.Resource

/-!
# `Moorage.Registry`: the declared resources

An ordered collection of resources with distinct references. Every resource that
is added gets an identity of its own, which it keeps when others come and go.

* `Registry.add`: refuses a second resource with the same reference.
* `Registry.find`: the first resource with a reference of the given text.
* `Registry.remove`: removes by identity, not by reference.
-/

set_option autoImplicit false

namespace Moorage

/-- A registered resource and its identity. -/
structure Entry where
  id : Nat
  resource : Resource
  deriving DecidableEq, Repr, Inhabited

/-- The registered resources in the order of their registration. -/
structure Registry where
  entries : List Entry := []
  next : Nat := 0
  deriving DecidableEq, Repr, Inhabited

namespace Registry

/-- The registry without resources. -/
def empty : Registry := {}

/-- The registered resources in order. -/
def resources (r : Registry) : List Resource := r.entries.map Entry.resource

/-- The number of registered resources. -/
def size (r : Registry) : Nat := r.entries.length

/-- Whether nothing is registered. -/
def isEmpty (r : Registry) : Bool := r.entries.isEmpty

/-- Registers a resource at the end. A reference can be registered once. -/
def add (r : Registry) (resource : Resource) : Except Error (Entry × Registry) :=
  if r.resources.any fun other => other.reference = resource.reference then
    .error (.conflict resource.label)
  else
    let entry : Entry := { id := r.next, resource := resource }
    .ok (entry, { entries := r.entries ++ [entry], next := r.next + 1 })

/-- The first resource whose reference has the given text. -/
def find (r : Registry) (label : String) : Except Error Entry :=
  match r.entries.find? fun entry => entry.resource.label = label with
  | some entry => .ok entry
  | none => .error (.notFound "resource" label)

/-- Removes the very resource that was registered under the identity. -/
def remove (r : Registry) (entry : Entry) : Except Error Registry :=
  if r.entries.any fun other => other.id = entry.id then
    .ok { r with entries := r.entries.filter fun other => other.id ≠ entry.id }
  else .error (.notFound "resource" entry.resource.label)

/-- The resources declared in a module, in order. -/
def inModule (r : Registry) (moduleName : String) : List Resource :=
  r.resources.filter fun resource => resource.moduleName = some moduleName

/-- The registry of a list of resources, registered in order. -/
def ofResources (resources : List Resource) : Except Error Registry :=
  resources.foldlM (fun r resource => (r.add resource).map (·.2)) empty

end Registry

end Moorage
