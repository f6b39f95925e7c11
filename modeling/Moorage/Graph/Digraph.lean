/-!
# `Moorage.Graph.Digraph`: directed graphs on numbered vertices

A graph is its list of edges, the newest first, and neighbours are listed in
that order.

* `finishOrder`: the vertices in reverse order of finishing in a depth-first
  search.
* `backEdge?`: an edge that a given order does not respect.
* `reachable`: every vertex that paths lead to, in breadth-first order.
-/

set_option autoImplicit false

namespace Moorage.Digraph

/-- A vertex. -/
abbrev Vertex := Nat

/-- The edges of a graph, the newest first. -/
abbrev Edges := List (Vertex × Vertex)

/-- The vertices that edges lead to from `v`. -/
def successors (edges : Edges) (v : Vertex) : List Vertex :=
  (edges.filter fun edge => edge.1 = v).map (·.2)

/-- The vertices that edges lead to `v` from. -/
def predecessors (edges : Edges) (v : Vertex) : List Vertex :=
  (edges.filter fun edge => edge.2 = v).map (·.1)

/-- The edges with one more edge, if it is not there yet. -/
def addEdge (edges : Edges) (source target : Vertex) : Edges :=
  if (source, target) ∈ edges then edges else (source, target) :: edges

/-- The state of a depth-first search: the vertices met, and those finished, the
last first. -/
structure Search where
  met : List Vertex := []
  finished : List Vertex := []
  deriving DecidableEq, Repr

/-- Searches from `v`, newest neighbours last. A vertex with an edge to itself
ends the search at once. `fuel` bounds the depth of the search. -/
def visit (edges : Edges) : (fuel : Nat) → Vertex → Search → Except Vertex Search
  | 0, _, s => .ok s
  | fuel + 1, v, s =>
      if v ∈ s.met then .ok s
      else if v ∈ successors edges v then .error v
      else do
        let s ← (successors edges v).reverse.foldlM (fun s w => visit edges fuel w s)
          { s with met := v :: s.met }
        .ok { s with finished := v :: s.finished }

/-- The vertices below `count` in reverse order of finishing, or a vertex with an
edge to itself. -/
def finishOrder (edges : Edges) (count : Nat) : Except Vertex (List Vertex) := do
  let s ← (List.range count).foldlM (fun s v => visit edges (count + 1) v s) {}
  .ok s.finished

/-- The last listed predecessor of the first vertex of the order that has one not
among `earlier` and the vertices before it. -/
def backEdge? (edges : Edges) (earlier : List Vertex) : (order : List Vertex) → Option Vertex
  | [] => none
  | v :: rest =>
      match ((predecessors edges v).filter fun u => u ∉ v :: earlier).getLast? with
      | some u => some u
      | none => backEdge? edges (v :: earlier) rest

/-- An order of the vertices below `count` that respects every edge, or a vertex
on a cycle. -/
def sort (edges : Edges) (count : Nat) : Except Vertex (List Vertex) := do
  let order ← finishOrder edges count
  match backEdge? edges [] order with
  | some v => .error v
  | none => .ok order

/-- Breadth-first search: the vertices of the queue are known already, and `known`
lists the known vertices in the order in which they were met. -/
def breadthFirst (next : Vertex → List Vertex) :
    (fuel : Nat) → (queue known : List Vertex) → List Vertex
  | 0, _, known => known
  | _ + 1, [], known => known
  | fuel + 1, v :: queue, known =>
      let fresh := (next v).filter fun w => w ∉ known
      breadthFirst next fuel (queue ++ fresh) (known ++ fresh)

/-- The vertices that paths of any length lead to from `v`, itself first. `count`
bounds the vertices. -/
def reachable (next : Vertex → List Vertex) (count : Nat) (v : Vertex) : List Vertex :=
  breadthFirst next (count + 1) [v] [v]

/-- The first edge from `v` that lies on a cycle, as the vertex that it leads to;
`v` itself when there is none. -/
def cycleTarget (edges : Edges) (count : Nat) (v : Vertex) : Vertex :=
  ((successors edges v).find? fun w => v ∈ reachable (successors edges) count w).getD v

end Moorage.Digraph
