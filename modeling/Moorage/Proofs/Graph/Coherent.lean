import Moorage.Graph
import Moorage.Proofs.Digraph.Order

/-!
# `Moorage.Proofs.Graph.Coherent`: what building a graph guarantees

`Graph.build` adds edges dependency by dependency, adds those to the root, and sorts.
`Graph.Coherent` collects what holds of every graph that comes out of it when no two resources
share a reference text: edges are not repeated and stay among the vertices, none leads from the
root, and the order is complete and respects them all.

The root is vertex zero and the resource at position `p` is vertex `p + 1`. Dependencies are given
as text, and a vertex is looked up by the text of its reference: where two resources share a text
the last is found for both. That is why the texts are assumed to be distinct,
`BuiltFrom.distinct`, and it is all that is assumed.

`Proper` is the invariant of the edges while dependencies are added. An edge to the root comes from
a resource without edges of its own, so that the root is reached from everywhere and nothing is
added twice. What a graph is coherent for is the use of it: listings, walks and the order of starts
go by positions, and `Coherent` is what they need to know of the edges.

* `BuiltFrom.coherent`: a graph that was built is coherent.
* `Coherent.vertex?_label`: every resource is found under its own reference text, so that none is
  hidden by another.
-/

set_option autoImplicit false

namespace Moorage

/-- A registry of a network and of a container that is attached to it. -/
def Registry.webOnNet : Registry :=
  let net : Resource := { name := "net", spec := .network {} }
  let web : Resource :=
    { name := "web", spec := .container { networks := [{ name := "network.net" }] } }
  { entries := [⟨0, net⟩, ⟨1, web⟩], next := 2 }

/-- A registry of two networks and of a container that is attached to both. It is for what takes
one resource with two dependencies. -/
def Registry.webOnTwoNets : Registry :=
  let front : Resource := { name := "front", spec := .network {} }
  let back : Resource := { name := "back", spec := .network {} }
  let web : Resource :=
    { name := "web",
      spec := .container { networks := [{ name := "network.front" }, { name := "network.back" }] } }
  { entries := [⟨0, front⟩, ⟨1, back⟩, ⟨2, web⟩], next := 3 }

namespace Graph

open Moorage.Digraph (Vertex Edges)

/-- The vertex of some resource, and not the root. Vertex `0` is the root, and the resource at
position `k` has vertex `k + 1`. -/
def IsResource (resources : List Resource) (v : Nat) : Prop :=
  v ≠ 0 ∧ v < resources.length + 1

/-- Where the resource at a position stands among the vertices. The root takes the first place, so
everything is one further. -/
theorem isResource_succ {resources : List Resource} {k : Nat} :
    IsResource resources (k + 1) ↔ k < resources.length := by
  unfold IsResource
  omega

/-- The positions of vertices, one by one. -/
theorem mem_positionsOf {vs : List Vertex} {p : Nat} : p ∈ positionsOf vs ↔ p + 1 ∈ vs := by
  unfold positionsOf root
  rw [List.mem_filterMap]
  constructor
  · rintro ⟨v, hv, hp⟩
    cases v with
    | zero => cases hp
    | succ k =>
        rw [if_neg (Nat.succ_ne_zero k)] at hp
        cases hp
        exact hv
  · intro hp
    exact ⟨p + 1, hp, if_neg (Nat.succ_ne_zero p)⟩

/-- Vertices that are not repeated have positions that are not repeated. -/
theorem nodup_positionsOf {vs : List Vertex} (h : vs.Nodup) : (positionsOf vs).Nodup := by
  refine h.filterMap fun u v p hu hv => ?_
  have hup : p ∈ positionsOf [u] := List.mem_filterMap.mpr ⟨u, List.mem_singleton_self u, hu⟩
  have hvp : p ∈ positionsOf [v] := List.mem_filterMap.mpr ⟨v, List.mem_singleton_self v, hv⟩
  rw [mem_positionsOf, List.mem_singleton] at hup hvp
  exact hup.symm.trans hvp

/-- Without the root there are as many positions as vertices. The root has no position and is
dropped, hence the assumption. -/
theorem length_positionsOf {vs : List Vertex} (h : root ∉ vs) :
    (positionsOf vs).length = vs.length := by
  unfold positionsOf
  induction vs with
  | nil => rfl
  | cons v vs ih =>
      have hv : v ≠ root := fun hv => h (hv ▸ List.mem_cons_self)
      simp only [List.filterMap_cons, if_neg hv, List.length_cons,
        ih fun hmem => h (List.mem_cons_of_mem v hmem)]

/-! ### Finding vertices by reference text -/

/-- A vertex that is found is one of a resource with that text. It need not be the only such
resource; see `position_unique`. -/
theorem vertexIn?_eq_some {resources : List Resource} {label : String} {v : Vertex}
    (h : vertexIn? resources label = some v) :
    ∃ k r, v = k + 1 ∧ resources[k]? = some r ∧ r.label = label := by
  obtain ⟨entry, hlast, rfl⟩ := Option.map_eq_some_iff.mp h
  obtain ⟨hmem, hlabel⟩ := List.mem_filter.mp (List.mem_of_getLast? hlast)
  exact ⟨entry.2, entry.1, rfl, List.mem_zipIdx_iff_getElem?.mp hmem, by simpa using hlabel⟩

/-- A vertex that is found is not the root. -/
theorem isResource_of_vertexIn? {resources : List Resource} {label : String} {v : Vertex}
    (h : vertexIn? resources label = some v) : IsResource resources v := by
  obtain ⟨k, r, rfl, hk, -⟩ := vertexIn?_eq_some h
  exact isResource_succ.mpr (List.getElem?_eq_some_iff.mp hk).1

/-- Some vertex is found for the text of a resource. -/
theorem exists_vertexIn?_label {resources : List Resource} {r : Resource}
    (h : r ∈ resources) : ∃ v, vertexIn? resources r.label = some v := by
  obtain ⟨k, hk⟩ := List.mem_iff_getElem?.mp h
  have hmem : (r, k) ∈ resources.zipIdx.filter fun entry => entry.1.label = r.label :=
    List.mem_filter.mpr ⟨List.mem_zipIdx_iff_getElem?.mpr hk, by simp⟩
  cases hlast : (resources.zipIdx.filter fun entry => entry.1.label = r.label).getLast? with
  | none =>
      rw [List.getLast?_eq_none_iff.mp hlast] at hmem
      exact absurd hmem List.not_mem_nil
  | some entry => exact ⟨entry.2 + 1, by unfold vertexIn?; rw [hlast]; rfl⟩

/-- When no text is shared, resources with one text stand at one position. A registry does not see
to this assumption by itself, since it compares addresses and not texts. -/
theorem position_unique {resources : List Resource}
    (hdistinct : (resources.map Resource.label).Nodup) {j k : Nat} {r s : Resource}
    (hj : resources[j]? = some r) (hk : resources[k]? = some s) (h : r.label = s.label) :
    j = k := by
  have hlt : j < (resources.map Resource.label).length := by
    rw [List.length_map]
    exact (List.getElem?_eq_some_iff.mp hj).1
  refine (List.getElem?_inj hlt hdistinct).mp ?_
  rw [List.getElem?_map, List.getElem?_map, hj, hk, Option.map_some, Option.map_some, h]

/-- When no text is shared, every resource is found under its own. Otherwise the last resource
with the text is found instead. -/
theorem vertexIn?_label {resources : List Resource}
    (hdistinct : (resources.map Resource.label).Nodup) {k : Nat} {r : Resource}
    (hk : resources[k]? = some r) : vertexIn? resources r.label = some (k + 1) := by
  obtain ⟨v, hv⟩ := exists_vertexIn?_label (List.mem_of_getElem? hk)
  obtain ⟨j, s, rfl, hj, hlabel⟩ := vertexIn?_eq_some hv
  rw [hv, position_unique hdistinct hj hk hlabel]

/-! ### The edges of the dependencies -/

/-- Edges between resources, none repeated. This is what holds while dependencies are added,
before the edges to the root are. -/
structure Proper (resources : List Resource) (edges : Edges) : Prop where
  nodup : edges.Nodup
  source : ∀ e ∈ edges, IsResource resources e.1
  target : ∀ e ∈ edges, IsResource resources e.2

/-- An edge between resources is added once: one that is there already is not repeated. Two
strings of a resource may denote the same one. -/
theorem Proper.addEdge {resources : List Resource} {edges : Edges}
    (h : Proper resources edges) {u v : Vertex} (hu : IsResource resources u)
    (hv : IsResource resources v) : Proper resources (Digraph.addEdge edges u v) := by
  unfold Digraph.addEdge
  split
  · exact h
  · next hnew =>
      refine ⟨List.nodup_cons.mpr ⟨hnew, h.nodup⟩, fun e he => ?_, fun e he => ?_⟩
      · rcases List.mem_cons.mp he with rfl | he
        · exact hu
        · exact h.source e he
      · rcases List.mem_cons.mp he with rfl | he
        · exact hv
        · exact h.target e he

/-- A dependency names resources only. The root has a name too, but no string leads to it. -/
theorem isResource_of_resolve? {resources : List Resource} {declaredBy : Resource}
    {dependency : String} {targets : List Vertex}
    (h : resolve? resources declaredBy dependency = some targets) :
    ∀ v ∈ targets, IsResource resources v := by
  intro v hv
  unfold resolve? at h
  split at h
  · -- The members of a module.
    dsimp only at h
    split at h
    · cases h
    · cases h
      obtain ⟨r, -, hr⟩ := List.mem_filterMap.mp hv
      exact isResource_of_vertexIn? hr
  · split at h
    · -- The resource with that text.
      next hfound =>
        cases h
        rw [List.mem_singleton] at hv
        subst hv
        exact isResource_of_vertexIn? hfound
    · -- The resource with that name in the module of the declaring one.
      split at h
      · obtain ⟨u, hu, rfl⟩ := Option.map_eq_some_iff.mp h
        rw [List.mem_singleton] at hv
        subst hv
        exact isResource_of_vertexIn? hu
      · cases h

/-- A dependency adds an edge for each of the resources that it may stand for. There are several
of them when it names a module. -/
theorem Proper.addDependency {resources : List Resource} {declaredBy : Resource}
    {dependent : Vertex} (hdependent : IsResource resources dependent) {edges after : Edges}
    (h : Proper resources edges) {dependency : String}
    (hadd : addDependency resources declaredBy dependent edges dependency = .ok after) :
    Proper resources after := by
  unfold Graph.addDependency at hadd
  split at hadd
  · cases hadd
  · next targets hresolve =>
      cases hadd
      have htargets := isResource_of_resolve? hresolve
      clear hresolve
      induction targets generalizing edges with
      | nil => exact h
      | cons v targets ih =>
          exact ih (h.addEdge (htargets v List.mem_cons_self) hdependent)
            fun u hu => htargets u (List.mem_cons_of_mem v hu)

/-- The edges of all dependencies lead between resources. The proof goes along both loops, that
over the resources and that over the strings of each. -/
theorem proper_dependencyEdges {resources : List Resource} {edges : Edges}
    (h : dependencyEdges resources = .ok edges) : Proper resources edges := by
  have hempty : Proper resources [] := ⟨List.nodup_nil, by simp, by simp⟩
  refine Except.of_foldlM (fun r hr before after hbefore hadd => ?_) hempty h
  obtain ⟨v, hv⟩ := exists_vertexIn?_label hr
  have hdependent : IsResource resources ((vertexIn? resources r.label).getD root) := by
    rw [hv]
    exact isResource_of_vertexIn? hv
  exact Except.of_foldlM (fun s _ b c hb hc => hb.addDependency hdependent hc) hbefore hadd

/-! ### The edges to the root -/

/-- The edges with those to the root: the old ones, and one to the root from every
resource without edges of its own. -/
theorem mem_withRoot {resources : List Resource} {edges : Edges} {u v : Vertex} :
    (u, v) ∈ withRoot resources edges ↔
      (u, v) ∈ edges ∨ v = root ∧ IsResource resources u ∧ Digraph.successors edges u = [] := by
  unfold withRoot IsResource
  simp only [List.mem_append, List.mem_reverse, List.mem_map, List.mem_filter, List.mem_range,
    Prod.mk.injEq, Bool.decide_and, Bool.and_eq_true, decide_eq_true_eq, List.isEmpty_iff]
  constructor
  · rintro (⟨w, ⟨hw, hroot, hnone⟩, rfl, rfl⟩ | h)
    · exact Or.inr ⟨rfl, ⟨hroot, hw⟩, hnone⟩
    · exact Or.inl h
  · rintro (h | ⟨rfl, ⟨hroot, hu⟩, hnone⟩)
    · exact Or.inr h
    · exact Or.inl ⟨u, ⟨hu, hroot, hnone⟩, rfl, rfl⟩

/-- The edges to the root repeat none. There is one for each leaf, and it is new since
dependencies never lead to the root. -/
theorem nodup_withRoot {resources : List Resource} {edges : Edges}
    (h : Proper resources edges) : (withRoot resources edges).Nodup := by
  refine List.nodup_append.mpr ⟨?_, h.nodup, fun e he f hf hef => ?_⟩
  · rw [List.nodup_reverse]
    exact ((List.nodup_range).filter _).map fun _ _ huv => congrArg Prod.fst huv
  · subst hef
    obtain ⟨v, -, rfl⟩ := List.mem_map.mp (List.mem_reverse.mp he)
    exact (h.target _ hf).1 rfl

/-- With those to the root, too, edges lead from resources only. -/
theorem Proper.withRoot_source {resources : List Resource} {edges : Edges}
    (h : Proper resources edges) : ∀ e ∈ withRoot resources edges, IsResource resources e.1 := by
  rintro ⟨u, v⟩ he
  rcases mem_withRoot.mp he with he | ⟨-, hu, -⟩
  · exact h.source _ he
  · exact hu

/-- With those to the root, too, edges lead to vertices that there are. The root is one of them. -/
theorem Proper.withRoot_target {resources : List Resource} {edges : Edges}
    (h : Proper resources edges) : ∀ e ∈ withRoot resources edges, e.2 < resources.length + 1 := by
  rintro ⟨u, v⟩ he
  rcases mem_withRoot.mp he with he | ⟨rfl, -, -⟩
  · exact (h.target _ he).2
  · exact Nat.succ_pos _

/-! ### Graphs that were built -/

/-- A graph whose parts fit together. Proofs about the lookups of a graph ask for no more than
this, and `build_coherent` gives it for every graph that was built from resources with distinct
texts. -/
structure Coherent (g : Graph) : Prop where
  distinct : (g.resources.map Resource.label).Nodup
  nodup : g.edges.Nodup
  source : ∀ e ∈ g.edges, IsResource g.resources e.1
  target : ∀ e ∈ g.edges, e.2 < g.size + 1
  ordered : Digraph.Ordered g.edges (g.size + 1) g.order

/-- The graph comes from a registry in which no two resources share a reference
text. -/
structure BuiltFrom (g : Graph) (registry : Registry) : Prop where
  built : Graph.build registry = .ok g
  distinct : (registry.resources.map Resource.label).Nodup

/-- Sorting for a graph and sorting its edges succeed alike. They differ in the failure only,
which the graph words in reference texts. -/
theorem sorted_eq_ok {resources : List Resource} {edges : Edges} {order : List Vertex} :
    sorted resources edges = .ok order ↔
      Digraph.sort edges (resources.length + 1) = .ok order :=
  Except.mapError_eq_ok_iff

/-- The parts of a graph that was built. What is proved about building begins here, so that
`build` itself is opened once. -/
theorem build_eq_ok {registry : Registry} {g : Graph} (h : build registry = .ok g) :
    ∃ edges, dependencyEdges registry.resources = .ok edges ∧
      g.resources = registry.resources ∧ g.edges = withRoot registry.resources edges ∧
      Digraph.sort g.edges (registry.resources.length + 1) = .ok g.order := by
  obtain ⟨edges, hedges, hfirst⟩ := Except.bind_eq_ok_iff.mp h
  obtain ⟨_, -, hsecond⟩ := Except.bind_eq_ok_iff.mp hfirst
  obtain ⟨order, hsorted, hgraph⟩ := Except.bind_eq_ok_iff.mp hsecond
  cases hgraph
  exact ⟨edges, hedges, rfl, rfl, sorted_eq_ok.mp hsorted⟩

/-- A graph that was built is coherent. The edges are those of the dependencies with those to the
root, and that the order respects them is what sorting has checked. -/
theorem BuiltFrom.coherent {registry : Registry} {g : Graph} (h : g.BuiltFrom registry) :
    g.Coherent := by
  obtain ⟨edges, hdependencies, hresources, hedges, hsort⟩ := build_eq_ok h.built
  have hproper := proper_dependencyEdges hdependencies
  have hsource : ∀ e ∈ g.edges, IsResource g.resources e.1 := by
    rw [hedges, hresources]
    exact hproper.withRoot_source
  have htarget : ∀ e ∈ g.edges, e.2 < g.size + 1 := by
    unfold size
    rw [hedges, hresources]
    exact hproper.withRoot_target
  refine ⟨?_, ?_, hsource, htarget, Digraph.sort_ordered htarget ?_⟩
  · rw [hresources]
    exact h.distinct
  · rw [hedges]
    exact nodup_withRoot hproper
  · unfold size
    rw [hresources]
    exact hsort

/-- The graph of a network, at position 0, and of a container on it, at position 1. -/
def webOnNet : Graph :=
  { resources := Registry.webOnNet.resources, edges := [(2, 0), (1, 2)], order := [1, 2, 0] }

/-- The graph comes from its registry, for witnesses that need one. -/
theorem webOnNet_built : webOnNet.BuiltFrom Registry.webOnNet := ⟨rfl, by decide⟩

/-- The graph of two networks, at positions 0 and 1, and of a container on both, at
position 2. -/
def webOnTwoNets : Graph :=
  { resources := Registry.webOnTwoNets.resources, edges := [(3, 0), (2, 3), (1, 3)],
    order := [2, 1, 3, 0] }

/-- The graph comes from its registry, for witnesses with two dependencies of one resource. -/
theorem webOnTwoNets_built : webOnTwoNets.BuiltFrom Registry.webOnTwoNets := ⟨rfl, by decide⟩

namespace Coherent

variable {g : Graph}

/-- Every resource is found under its own reference text. So its vertex is one more than its
position. -/
theorem vertex?_label (h : g.Coherent) {p : Nat} {r : Resource}
    (hp : g.resources[p]? = some r) : g.vertex? r.label = some (p + 1) :=
  vertexIn?_label h.distinct hp

/-- The positions of the resources in order of creation are all positions. The root is in the
order too, and it is left out. -/
theorem mem_positions (h : g.Coherent) {p : Nat} : p ∈ g.positions ↔ p < g.size := by
  rw [← Nat.succ_lt_succ_iff, ← h.ordered.mem_iff]
  exact mem_positionsOf

/-- No position comes twice in the order of creation. -/
theorem nodup_positions (h : g.Coherent) : g.positions.Nodup :=
  nodup_positionsOf h.ordered.nodup

end Coherent

end Graph

end Moorage
