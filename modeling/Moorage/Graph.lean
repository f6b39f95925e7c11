import Moorage.Graph.Digraph
import Moorage.Registry

/-!
# `Moorage.Graph`: the dependencies between resources

An edge leads from a resource to one that depends on it, so that an order which
respects the edges is an order of creation. One more vertex, the root, lies
behind every resource that nothing depends on.

* `Graph.resolve`: the resources that a dependency string names.
* `Graph.build`: the graph of a registry, or the string that names nothing, or
  an edge on a cycle.
* `dependencies`, `dependents`, `ancestors`, `descendants`, `leaves`: the
  neighbours and the closures of a resource.
-/

set_option autoImplicit false

namespace Moorage

open Moorage.Digraph (Vertex Edges)

/-- The dependency graph of the resources of a registry. Vertex zero is the root,
and vertex `k + 1` is the resource at position `k`. -/
structure Graph where
  resources : List Resource
  edges : Edges
  order : List Vertex
  deriving Repr, Inhabited

namespace Graph

/-- The vertex behind every resource that nothing depends on. -/
def root : Vertex := 0

/-- The vertex of the last resource whose reference has the given text. -/
def vertexIn? (resources : List Resource) (label : String) : Option Vertex :=
  ((resources.zipIdx.filter fun entry => entry.1.label = label).getLast?).map (·.2 + 1)

/-- The resource of a vertex. -/
def resourceIn? (resources : List Resource) : Vertex → Option Resource
  | 0 => none
  | k + 1 => resources[k]?

/-- The vertices that a dependency of a resource names: the members of a module;
else the resource with that reference; else the one of the resource's own
module. -/
def resolve? (resources : List Resource) (declaredBy : Resource) (dependency : String) :
    Option (List Vertex) :=
  match Text.dropLead? "module.".toList dependency.toList with
  | some moduleName =>
      let members := resources.filter fun r => r.moduleName = some (String.ofList moduleName)
      match members.filterMap fun r => vertexIn? resources r.label with
      | [] => none
      | vertices => some vertices
  | none =>
      match vertexIn? resources dependency with
      | some v => some [v]
      | none =>
          match declaredBy.moduleName with
          | some m => (vertexIn? resources s!"{dependency}.{m}").map ([·])
          | none => none

/-- The edges with those of one dependency added. -/
def addDependency (resources : List Resource) (declaredBy : Resource) (dependent : Vertex)
    (edges : Edges) (dependency : String) : Except Error Edges :=
  match resolve? resources declaredBy dependency with
  | none => .error (.unresolvedDependency declaredBy.label dependency)
  | some targets =>
      .ok (targets.foldl (fun edges target => Digraph.addEdge edges target dependent) edges)

/-- The edges with those of one resource added. -/
def addResource (resources : List Resource) (edges : Edges) (r : Resource) :
    Except Error Edges :=
  let dependent := (vertexIn? resources r.label).getD root
  r.dependencyReferences.foldlM (addDependency resources r dependent) edges

/-- The edges of every dependency. -/
def dependencyEdges (resources : List Resource) : Except Error Edges :=
  resources.foldlM (addResource resources) []

/-- The name of a vertex in a message. -/
def vertexLabel (resources : List Resource) (v : Vertex) : String :=
  match resourceIn? resources v with
  | some r => r.label
  | none => "root"

/-- The failure for a cycle through a vertex. -/
def cycleError (resources : List Resource) (edges : Edges) (v : Vertex) : Error :=
  .cycle (vertexLabel resources v)
    (vertexLabel resources (Digraph.cycleTarget edges (resources.length + 1) v))

/-- The edges with one to the root from every vertex that no edge leads from. -/
def withRoot (resources : List Resource) (edges : Edges) : Edges :=
  let leaves := (List.range (resources.length + 1)).filter fun v =>
    v ≠ root ∧ (Digraph.successors edges v).isEmpty
  (leaves.map fun v => (v, root)).reverse ++ edges

/-- An order of the vertices that respects the edges, or the failure for a cycle. -/
def sorted (resources : List Resource) (edges : Edges) : Except Error (List Vertex) :=
  (Digraph.sort edges (resources.length + 1)).mapError (cycleError resources edges)

/-- The graph of a registry's resources. -/
def build (registry : Registry) : Except Error Graph := do
  let resources := registry.resources
  let edges ← dependencyEdges resources
  let _ ← sorted resources edges
  let edges := withRoot resources edges
  let order ← sorted resources edges
  .ok { resources := resources, edges := edges, order := order }

variable (g : Graph)

/-- The number of resources. -/
def size : Nat := g.resources.length

/-- Whether there are no resources. -/
def isEmpty : Bool := g.size = 0

/-- The vertex of a reference. -/
def vertex? (label : String) : Option Vertex := vertexIn? g.resources label

/-- The positions of the resources in an order of creation. -/
def positions : List Nat := g.order.filterMap fun v => if v = root then none else some (v - 1)

/-- The resources at the given vertices; the root is none. -/
def resourcesAt (vertices : List Vertex) : List Resource :=
  vertices.filterMap (resourceIn? g.resources)

/-- The resources in an order of creation. -/
def inOrder : List Resource := g.resourcesAt g.order

/-- The positions of the vertices among the resources; the root has none. -/
def positionsOf (vertices : List Vertex) : List Nat :=
  vertices.filterMap fun v => if v = root then none else some (v - 1)

/-- The vertices that a reference depends on directly. -/
def dependencyVertices (label : String) : List Vertex :=
  match g.vertex? label with
  | some v => (Digraph.predecessors g.edges v).filter (· ≠ root)
  | none => []

/-- The vertices that depend on a reference directly. -/
def dependentVertices (label : String) : List Vertex :=
  match g.vertex? label with
  | some v => (Digraph.successors g.edges v).filter (· ≠ root)
  | none => []

/-- The resources that a reference depends on directly. -/
def dependencies (label : String) : List Resource := g.resourcesAt (g.dependencyVertices label)

/-- The resources that depend on a reference directly. -/
def dependents (label : String) : List Resource := g.resourcesAt (g.dependentVertices label)

/-- The vertices that steps of `next` lead to from a reference, itself and the
root left out. -/
def closure (next : Vertex → List Vertex) (label : String) : Except Error (List Vertex) :=
  match g.vertex? label with
  | none => .error (.notFound "resource" label)
  | some v =>
      .ok ((Digraph.reachable next (g.size + 1) v).filter fun w => w ≠ v ∧ w ≠ root)

/-- The vertices of the resources that depend on a reference, directly or not. -/
def descendantVertices (label : String) : Except Error (List Vertex) :=
  g.closure (Digraph.successors g.edges) label

/-- The vertices of the resources that a reference depends on, directly or not. -/
def ancestorVertices (label : String) : Except Error (List Vertex) :=
  g.closure (Digraph.predecessors g.edges) label

/-- The resources that depend on a reference, directly or not, the nearest first. -/
def descendants (label : String) : Except Error (List Resource) :=
  (g.descendantVertices label).map g.resourcesAt

/-- The resources that a reference depends on, directly or not, the nearest
first. -/
def ancestors (label : String) : Except Error (List Resource) :=
  (g.ancestorVertices label).map g.resourcesAt

/-- The resource with a reference. -/
def get (label : String) : Except Error Resource :=
  match (g.vertex? label).bind (resourceIn? g.resources) with
  | some r => .ok r
  | none => .error (.notFound "resource" label)

/-- The number of dependency edges, those to the root left out. -/
def dependencyCount : Nat := (g.edges.filter fun edge => edge.2 ≠ root).length

/-- The resources next to the root. -/
def leaves : List Resource := g.resourcesAt (Digraph.predecessors g.edges root)

end Graph

end Moorage
