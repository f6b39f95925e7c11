import Moorage.Proofs.Graph.Build

/-!
# `Moorage.Proofs.Graph.Root`: a graph hangs together at its root

The edges to the root come last, one from every vertex that no edge leads from. What stands at
such a vertex is a resource that nothing needs, so the root collects the ends of all chains of
dependents. An order that respects the edges rises along every chain, and a chain therefore comes
to the root.

The edges to the root are no dependencies: the listings of direct neighbours leave them out, and
so does the count. Each of the two listings, over all resources, lists every pair of `Needs` once.

* `BuiltFrom.mem_edges_root_iff`: where edges lead to the root from.
* `BuiltFrom.transGen_root`: every resource reaches the root.
* `BuiltFrom.sum_dependencies`, `BuiltFrom.sum_dependents`: the direct neighbours are as many as
  the count says.
* `BuiltFrom.rooted`: all of this together.
-/

set_option autoImplicit false

namespace Moorage.Graph

open Moorage.Digraph (Vertex Edge)
open Relation (TransGen)

variable {g : Graph} {registry : Registry}

/-- A vertex of a resource is one at which a resource stands. -/
theorem isResource_iff {resources : List Resource} {v : Vertex} :
    IsResource resources v ↔ ∃ r, resourceIn? resources v = some r := by
  cases v with
  | zero => simp [IsResource, resourceIn?]
  | succ k => simp [isResource_succ, resourceIn?, ← Option.isSome_iff_exists]

/-- Listings for the members of a list, none of them with a repetition, list as many pairs as they
are long together. -/
theorem encard_eq_sum_length {α β : Type} {xs : List α} {listing : α → List β} {R : α → β → Prop}
    (hxs : xs.Nodup) (hlisting : ∀ x, (listing x).Nodup)
    (hR : ∀ x y, R x y ↔ x ∈ xs ∧ y ∈ listing x) :
    {pair : α × β | R pair.1 pair.2}.encard = (xs.map fun x => (listing x).length).sum := by
  classical
  let pairs := (xs.sigma listing).map (Equiv.sigmaEquivProd α β)
  have hnodup : pairs.Nodup :=
    (hxs.sigma hlisting).map (Equiv.sigmaEquivProd α β).injective
  have hset : {pair : α × β | R pair.1 pair.2} = {pair | pair ∈ pairs} := by
    ext ⟨x, y⟩
    simp [pairs, hR]
  rw [hset, ← List.coe_toFinset, Set.encard_coe_eq_coe_finsetCard,
    List.toFinset_card_of_nodup hnodup, List.length_map, List.length_sigma]

/-- No edge leads from the root of the graph. The edges to it come from the resources that nothing
needs, which are the leaves, each listed once, and every resource reaches it. There is a leaf if
there is a resource. The graph has the resources of the list and, beside them, only the root among
its vertices. Both numbers of direct neighbours, the resources taken together, are the count of the
dependencies. -/
structure Rooted (g : Graph) (resources : List Resource) : Prop where
  not_edge_root : ∀ v, ¬ Edge g.edges root v
  edge_root_iff : ∀ v, Edge g.edges v root ↔
    ∃ r, resourceIn? resources v = some r ∧ ∀ t, ¬ Needs resources t r
  nodup_leaves : g.leaves.Nodup
  mem_leaves : ∀ r, r ∈ g.leaves ↔ r ∈ resources ∧ ∀ t, ¬ Needs resources t r
  reaches_root : ∀ v r, resourceIn? resources v = some r → TransGen (Edge g.edges) v root
  leaves_ne_nil : resources ≠ [] → g.leaves ≠ []
  size_eq : g.size = resources.length
  length_order : g.order.length = g.size + 1
  sum_dependencies :
    (resources.map fun r => (g.dependencies r.label).length).sum = g.dependencyCount
  sum_dependents :
    (resources.map fun r => (g.dependents r.label).length).sum = g.dependencyCount

namespace BuiltFrom

/-! ### The way to the root -/

/-- An edge leads to the root from the vertex of every resource that nothing needs, and from no
other vertex. -/
theorem mem_edges_root_iff (h : g.BuiltFrom registry) {v : Vertex} :
    (v, root) ∈ g.edges ↔
      ∃ r, resourceIn? g.resources v = some r ∧ ∀ t, ¬ Needs g.resources t r := by
  obtain ⟨edges, hedges, hresources, hgraph, -⟩ := build_eq_ok h.built
  have hnone : (v, root) ∉ edges := fun hmem =>
    ((proper_dependencyEdges hedges).target _ hmem).1 rfl
  have hmem : ∀ w, (v, w) ∈ edges ↔ ∃ t r, resourceIn? g.resources w = some t ∧
      resourceIn? g.resources v = some r ∧ Needs g.resources t r := by
    intro w
    rw [hresources, mem_dependencyEdges h.distinct hedges]
  rw [hgraph, mem_withRoot, isResource_iff, ← hresources, List.eq_nil_iff_forall_not_mem]
  simp only [hnone, false_or, true_and, Digraph.mem_successors, hmem]
  constructor
  · rintro ⟨⟨r, hr⟩, hlast⟩
    refine ⟨r, hr, fun t hneeds => ?_⟩
    -- What needs the resource has a vertex, and an edge leads there.
    obtain ⟨w, hw⟩ := exists_resourceIn? hneeds.1
    exact hlast w ⟨t, r, hw, hr, hneeds⟩
  · rintro ⟨r, hr, hlast⟩
    refine ⟨⟨r, hr⟩, ?_⟩
    rintro w ⟨t, r', -, hr', hneeds⟩
    cases hr.symm.trans hr'
    exact hlast t hneeds

/-- An edge leads from every resource: to one that needs it, or else to the root. So the root is
reached from everywhere. -/
theorem exists_edge (h : g.BuiltFrom registry) {v : Vertex} {r : Resource}
    (hr : resourceIn? g.resources v = some r) : ∃ w, Edge g.edges v w := by
  by_cases hlast : ∃ t, Needs g.resources t r
  · obtain ⟨t, hneeds⟩ := hlast
    obtain ⟨w, hw⟩ := exists_resourceIn? hneeds.1
    exact ⟨w, (h.mem_edges_iff.mpr ⟨t, r, hw, hr, hneeds⟩).1⟩
  · exact ⟨root, h.mem_edges_root_iff.mpr ⟨r, hr, not_exists.mp hlast⟩⟩

/-- Every resource reaches the root. The induction is on what is left of the order behind the
vertex, in which every edge leads forward. -/
theorem transGen_root (h : g.BuiltFrom registry) {v : Vertex} {r : Resource}
    (hr : resourceIn? g.resources v = some r) : TransGen (Edge g.edges) v root := by
  induction hleft : g.order.length - g.order.idxOf v using Nat.strong_induction_on
    generalizing v r with
  | _ left ih =>
      obtain ⟨w, hedge⟩ := h.exists_edge hr
      by_cases hw : w = root
      · subst hw
        exact .single hedge
      · have hforward : g.order.idxOf v < g.order.idxOf w := h.coherent.ordered.idxOf_lt v w hedge
        have hvertex : w < g.size + 1 := h.coherent.target _ hedge
        have hinside : g.order.idxOf w < g.order.length :=
          List.idxOf_lt_length_iff.mpr ((h.coherent.ordered.mem_iff w).mpr hvertex)
        obtain ⟨t, ht⟩ := isResource_iff.mp ⟨hw, hvertex⟩
        exact .head hedge (ih _ (by omega) ht rfl)

/-! ### The leaves -/

/-- The leaves are the resources that nothing needs. -/
theorem mem_leaves (h : g.BuiltFrom registry) {r : Resource} :
    r ∈ g.leaves ↔ r ∈ g.resources ∧ ∀ t, ¬ Needs g.resources t r := by
  unfold leaves
  rw [mem_resourcesAt]
  simp only [Digraph.mem_predecessors, h.mem_edges_root_iff]
  constructor
  · rintro ⟨v, ⟨r', hr', hlast⟩, hr⟩
    cases hr'.symm.trans hr
    exact ⟨mem_of_resourceIn? hr, hlast⟩
  · rintro ⟨hmem, hlast⟩
    obtain ⟨v, hv⟩ := exists_resourceIn? hmem
    exact ⟨v, ⟨r, hv, hlast⟩, hv⟩

/-- Where there are resources, the last one on the way to the root is a leaf. Without leaves,
every resource would be needed by one after it in the order, without end. -/
theorem leaves_ne_nil (h : g.BuiltFrom registry) (hne : g.resources ≠ []) : g.leaves ≠ [] := by
  obtain ⟨r, hmem⟩ := List.exists_mem_of_ne_nil g.resources hne
  obtain ⟨v, hv⟩ := exists_resourceIn? hmem
  obtain ⟨u, -, hedge⟩ := TransGen.tail'_iff.mp (h.transGen_root hv)
  obtain ⟨t, ht, hlast⟩ := h.mem_edges_root_iff.mp hedge
  exact List.ne_nil_of_mem (h.mem_leaves.mpr ⟨mem_of_resourceIn? ht, hlast⟩)

/-! ### The numbers of vertices and neighbours -/

/-- The order has every resource in it, and the root. It is by one longer than the order of
creation. -/
theorem length_order (h : g.BuiltFrom registry) : g.order.length = g.size + 1 := by
  have hperm : g.order.Perm (List.range (g.size + 1)) :=
    (List.perm_ext_iff_of_nodup h.coherent.ordered.nodup List.nodup_range).mpr fun v => by
      rw [h.coherent.ordered.mem_iff, List.mem_range]
  rw [hperm.length_eq, List.length_range]

/-- All direct dependencies together are as many as the count says. Each edge between resources is
counted at its end. -/
theorem sum_dependencies (h : g.BuiltFrom registry) :
    (g.resources.map fun r => (g.dependencies r.label).length).sum = g.dependencyCount := by
  have hsum := encard_eq_sum_length (R := Needs g.resources) h.coherent.distinct.of_map
    (fun r => h.coherent.nodup_resourcesAt (h.coherent.nodup_dependencyVertices r.label))
    fun r t => ⟨fun hneeds => ⟨hneeds.1, (h.mem_dependencies hneeds.1).mpr hneeds⟩,
      fun hlisted => (h.mem_dependencies hlisted.1).mp hlisted.2⟩
  exact_mod_cast hsum.symm.trans h.encard_needs

/-- All direct dependents together are as many as the count says. Each edge between resources is
counted at its start, so the sum is the one of the dependencies. -/
theorem sum_dependents (h : g.BuiltFrom registry) :
    (g.resources.map fun t => (g.dependents t.label).length).sum = g.dependencyCount := by
  have hsum := encard_eq_sum_length (R := fun t r => Needs g.resources r t)
    h.coherent.distinct.of_map
    (fun t => h.coherent.nodup_resourcesAt (h.coherent.nodup_dependentVertices t.label))
    fun t r => ⟨fun hneeds => ⟨hneeds.mem, (h.mem_dependents hneeds.mem).mpr hneeds⟩,
      fun hlisted => (h.mem_dependents hlisted.1).mp hlisted.2⟩
  -- The pairs are those of `Needs`, turned around.
  have hswap : {pair : Resource × Resource | Needs g.resources pair.2 pair.1}.encard =
      {pair : Resource × Resource | Needs g.resources pair.1 pair.2}.encard := by
    rw [← Prod.swap_injective.encard_image, Set.image_swap_eq_preimage_swap]
    rfl
  exact_mod_cast hsum.symm.trans (hswap.trans h.encard_needs)

/-- A graph that was built hangs together at its root: every resource leads to it, and nothing
leads from it. Which resources have an edge to it is said by their needs, without regard to other
edges. -/
theorem rooted (h : g.BuiltFrom registry) : g.Rooted registry.resources := by
  rw [← h.resources_eq]
  exact
    { not_edge_root := fun v hedge => (h.coherent.source _ hedge).1 rfl
      edge_root_iff := fun v => h.mem_edges_root_iff
      nodup_leaves :=
        h.coherent.nodup_resourcesAt (Digraph.nodup_predecessors h.coherent.nodup root)
      mem_leaves := fun r => h.mem_leaves
      reaches_root := fun v r => h.transGen_root
      leaves_ne_nil := h.leaves_ne_nil
      size_eq := rfl
      length_order := h.length_order
      sum_dependencies := h.sum_dependencies
      sum_dependents := h.sum_dependents }

end BuiltFrom

/-- The job is the only resource that nothing waits for, and of three dependencies two are its
own. -/
theorem rooted_jobAfterShop :
    ∃ g : Graph, g.BuiltFrom Registry.jobAfterShop ∧ g.Rooted Registry.jobAfterShop.resources ∧
      g.leaves.map Resource.label = ["container.job"] ∧ g.dependencyCount = 3 ∧
      (g.dependencies "container.job").length = 2 := by
  have hdistinct : (Registry.jobAfterShop.resources.map Resource.label).Nodup := by decide
  exact ⟨_, ⟨rfl, hdistinct⟩, BuiltFrom.rooted ⟨rfl, hdistinct⟩, rfl, rfl, rfl⟩

end Moorage.Graph
