import Moorage.Proofs.Digraph.Reach
import Moorage.Proofs.Graph.Coherent

/-!
# `Moorage.Proofs.Graph.Dependence`: what a resource depends on

`Graph.DependsOn` is the relation behind the listings of a graph, on positions. It is read off the
edges: a resource depends on another when there is an edge from the one to the other, and the root
is no resource. Everything that is said of dependencies beyond this is said of its closure.

For a coherent graph the theorems say that each listing is exact and repeats nothing:

* `Coherent.mem_dependencyVertices`, `Coherent.mem_dependentVertices`: the direct
  neighbours.
* `Coherent.ancestorVertices_eq`, `Coherent.descendantVertices_eq`: the closures. A breadth-first
  search never leaves the root, so every path between resources is one of
  dependencies.
* `Coherent.not_dependsOn_self`: no resource depends on itself, directly or not.

The listings are asked for by text. For a text that belongs to no resource they are empty, and in a
coherent graph a text belongs to one resource at most.
-/

set_option autoImplicit false

namespace Moorage.Graph

open Moorage.Digraph (Vertex Edge Next)
open Relation (TransGen ReflTransGen)

variable {g : Graph}

/-- The resource at position `p` depends directly on the one at position `q`: an edge
leads from the vertex of the second to that of the first. -/
def DependsOn (g : Graph) (p q : Nat) : Prop := Edge g.edges (q + 1) (p + 1)

namespace Coherent

/-- A position with a resource is below the size of the graph. -/
theorem size_of_getElem? {p : Nat} {r : Resource} (hp : g.resources[p]? = some r) :
    p < g.size :=
  (List.getElem?_eq_some_iff.mp hp).1

/-- Both ends of a dependency are positions of the graph. Edges between resources leave the root
out on both sides. -/
theorem lt_of_dependsOn (h : g.Coherent) {p q : Nat} (hpq : g.DependsOn p q) :
    p < g.size ∧ q < g.size :=
  ⟨Nat.lt_of_succ_lt_succ (h.target _ hpq), isResource_succ.mp (h.source _ hpq)⟩

/-! ### Direct neighbours -/

/-- A resource lists exactly what it depends on directly. The text of the resource determines its
vertex, and the list is that of the predecessors. -/
theorem mem_dependencyVertices (h : g.Coherent) {p q : Nat} {r : Resource}
    (hp : g.resources[p]? = some r) :
    q + 1 ∈ g.dependencyVertices r.label ↔ g.DependsOn p q := by
  unfold dependencyVertices
  rw [h.vertex?_label hp]
  simp only [List.mem_filter, Digraph.mem_predecessors, decide_eq_true_eq]
  exact ⟨fun hq => hq.1, fun hq => ⟨hq, Nat.succ_ne_zero q⟩⟩

/-- A resource lists exactly what depends on it directly. The list is that of the successors, and
the root has been dropped from it. -/
theorem mem_dependentVertices (h : g.Coherent) {p q : Nat} {r : Resource}
    (hp : g.resources[p]? = some r) :
    q + 1 ∈ g.dependentVertices r.label ↔ g.DependsOn q p := by
  unfold dependentVertices
  rw [h.vertex?_label hp]
  simp only [List.mem_filter, Digraph.mem_successors, decide_eq_true_eq]
  exact ⟨fun hq => hq.1, fun hq => ⟨hq, Nat.succ_ne_zero q⟩⟩

/-- What a resource depends on is listed once, since edges are not repeated. -/
theorem nodup_dependencyVertices (h : g.Coherent) (label : String) :
    (g.dependencyVertices label).Nodup := by
  unfold dependencyVertices
  split
  · exact (Digraph.nodup_predecessors h.nodup _).filter _
  · exact List.nodup_nil

/-- What depends on a resource is listed once, since edges are not repeated. -/
theorem nodup_dependentVertices (h : g.Coherent) (label : String) :
    (g.dependentVertices label).Nodup := by
  unfold dependentVertices
  split
  · exact (Digraph.nodup_successors h.nodup _).filter _
  · exact List.nodup_nil

end Coherent

/-- The root is not listed as something to depend on, though edges lead to it. -/
theorem root_notMem_dependencyVertices (label : String) :
    root ∉ g.dependencyVertices label := by
  unfold dependencyVertices
  split <;> simp

/-- The root is not listed as something that depends on a resource. -/
theorem root_notMem_dependentVertices (label : String) : root ∉ g.dependentVertices label := by
  unfold dependentVertices
  split <;> simp

/-! ### Closures -/

/-- A chain of dependencies is a path, from the last dependency to the first
dependent. -/
theorem edge_of_transGen {p q : Nat} (h : TransGen g.DependsOn p q) :
    TransGen (Edge g.edges) (q + 1) (p + 1) := by
  induction h with
  | single hpq => exact .single hpq
  | tail _ hstep ih => exact .head hstep ih

namespace Coherent

/-- No resource depends on itself, directly or not. The order of creation would have to list it
before itself. -/
theorem not_dependsOn_self (h : g.Coherent) (p : Nat) : ¬ TransGen g.DependsOn p p :=
  fun hp => h.ordered.irrefl (p + 1) (edge_of_transGen hp)

/-- A path between two resources is empty or a chain of dependencies. The root ends
every path that comes to it, so it does not lie between the two. -/
theorem reflTransGen_edge (h : g.Coherent) {p q : Nat} :
    ReflTransGen (Edge g.edges) (q + 1) (p + 1) ↔ p = q ∨ TransGen g.DependsOn p q := by
  constructor
  · intro hpath
    -- By induction on the path, whose end varies.
    generalize hv : p + 1 = v at hpath
    induction hpath generalizing p with
    | refl => exact Or.inl (Nat.succ.inj hv)
    | tail _ hstep ih =>
        next b _ =>
        subst hv
        obtain ⟨k, rfl⟩ := Nat.exists_eq_succ_of_ne_zero (h.source _ hstep).1
        rcases ih rfl with rfl | hk
        · exact Or.inr (.single hstep)
        · exact Or.inr (.head hstep hk)
  · rintro (rfl | hpq)
    · exact .refl
    · exact (edge_of_transGen hpq).to_reflTransGen

/-- Successors are vertices. The search for all of them needs this bound to visit each at most
once. -/
theorem successors_lt (h : g.Coherent) (v : Vertex) :
    ∀ w ∈ Digraph.successors g.edges v, w < g.size + 1 :=
  fun _ hw => h.target _ (Digraph.mem_successors.mp hw)

/-- Predecessors are vertices. The search that goes up needs this bound as the one that goes down
does. -/
theorem predecessors_lt (h : g.Coherent) (v : Vertex) :
    ∀ w ∈ Digraph.predecessors g.edges v, w < g.size + 1 :=
  fun _ hw => (h.source _ (Digraph.mem_predecessors.mp hw)).2

/-- A closure lists what paths lead to from a resource, itself left out, when those
paths are chains of a relation `R` that does not lead back. -/
theorem closure_eq (h : g.Coherent) {next : Vertex → List Vertex}
    (hnodup : ∀ v, (next v).Nodup) (hlt : ∀ v, ∀ w ∈ next v, w < g.size + 1) {p : Nat}
    {r : Resource} (hp : g.resources[p]? = some r) {R : Nat → Prop}
    (hpath : ∀ q, ReflTransGen (Next next) (p + 1) (q + 1) ↔ q = p ∨ R q) (hself : ¬ R p) :
    ∃ vs, g.closure next r.label = .ok vs ∧ vs.Nodup ∧ ∀ q, q + 1 ∈ vs ↔ R q := by
  have hstart : p + 1 < g.size + 1 := Nat.succ_lt_succ (size_of_getElem? hp)
  unfold closure
  rw [h.vertex?_label hp]
  refine ⟨_, rfl, (Digraph.nodup_reachable hnodup hlt hstart).filter _, fun q => ?_⟩
  rw [List.mem_filter, Digraph.mem_reachable hnodup hlt hstart, hpath, decide_eq_true_iff]
  constructor
  · rintro ⟨rfl | hq, hne, -⟩
    · exact absurd rfl hne
    · exact hq
  · intro hq
    refine ⟨Or.inr hq, fun heq => hself ?_, Nat.succ_ne_zero q⟩
    rwa [Nat.succ.inj heq] at hq

/-- What depends on a resource, directly or not, is listed exactly and once. The search reaches
the root as well, and the vertex it starts from; both are dropped. -/
theorem descendantVertices_eq (h : g.Coherent) {p : Nat} {r : Resource}
    (hp : g.resources[p]? = some r) :
    ∃ vs, g.descendantVertices r.label = .ok vs ∧ vs.Nodup ∧
      ∀ q, q + 1 ∈ vs ↔ TransGen g.DependsOn q p := by
  refine h.closure_eq (Digraph.nodup_successors h.nodup) h.successors_lt hp (fun q => ?_)
    (h.not_dependsOn_self p)
  rw [Digraph.next_successors, h.reflTransGen_edge]

/-- What a resource depends on, directly or not, is listed exactly and once. Here the root cannot
be reached, since no edge leaves it. -/
theorem ancestorVertices_eq (h : g.Coherent) {p : Nat} {r : Resource}
    (hp : g.resources[p]? = some r) :
    ∃ vs, g.ancestorVertices r.label = .ok vs ∧ vs.Nodup ∧
      ∀ q, q + 1 ∈ vs ↔ TransGen g.DependsOn p q := by
  refine h.closure_eq (Digraph.nodup_predecessors h.nodup) h.predecessors_lt hp (fun q => ?_)
    (h.not_dependsOn_self p)
  rw [Digraph.next_predecessors, Relation.reflTransGen_swap, h.reflTransGen_edge, eq_comm]

end Coherent

end Moorage.Graph
