import Mathlib.Data.Set.Card
import Moorage.Proofs.Digraph.Acyclic
import Moorage.Proofs.Graph.Denotation
import Moorage.Proofs.Graph.Dependence

/-!
# `Moorage.Proofs.Graph.Build`: which registries have a graph, and which graph

The dependency strings of a registry give a relation between its resources, `Needs`. A
registry without shared reference texts has a graph exactly when every string denotes
something and nothing needs itself, directly or not, and the graph is then that relation:
`Graph.Renders` says so of the listings, of the count and of the order.

The edges between resources mirror `Needs`, so cycles of the one are cycles of the other.
The edges to the root close no cycle, since none leads from the root; this is why the
second sort of `Graph.build` cannot fail when the first did not.

* `build_eq_ok_iff`: when there is a graph.
* `BuiltFrom.dependsOn_iff`: the edges between resources.
* `build_renders`: both, and what follows for everything that a graph lists.
-/

set_option autoImplicit false

namespace Moorage

/-- A registry of a module with a network and a container on it, which names the network in
two ways, and of a container that waits for the module. -/
def Registry.jobAfterShop : Registry :=
  let net : Resource := { name := "net", moduleName := some "shop", spec := .network {} }
  let web : Resource :=
    { name := "web", moduleName := some "shop", dependsOn := ["network.net.shop"],
      spec := .container { networks := [{ name := "network.net" }] } }
  let job : Resource := { name := "job", dependsOn := ["module.shop"], spec := .container {} }
  { entries := [⟨0, net⟩, ⟨1, web⟩, ⟨2, job⟩], next := 3 }

namespace Graph

open Moorage.Digraph (Vertex Edges Edge Acyclic)
open Relation (TransGen ReflTransGen)

variable {resources : List Resource}

/-- What has needs, directly or not, is among the resources. The first step of the chain already
says so. -/
theorem mem_of_transGen_needs {r t : Resource} (h : TransGen (Needs resources) r t) :
    r ∈ resources := by
  obtain ⟨u, hru, -⟩ := TransGen.head'_iff.mp h
  exact hru.1

/-! ### Cycles -/

section Edges

variable (hdistinct : (resources.map Resource.label).Nodup) {edges : Edges}
  (h : dependencyEdges resources = .ok edges)

include hdistinct h

/-- Paths lead from what is needed, directly or not, to what needs it. Edges point the other way
from `Needs`, as creation goes along them. -/
theorem transGen_edge_iff {u v : Vertex} :
    TransGen (Edge edges) u v ↔ ∃ r t, resourceIn? resources v = some r ∧
      resourceIn? resources u = some t ∧ TransGen (Needs resources) r t := by
  constructor
  · intro hpath
    induction hpath with
    | single hedge =>
        obtain ⟨r, t, hr, ht, hneeds⟩ := (mem_dependencyEdges hdistinct h).mp hedge
        exact ⟨r, t, hr, ht, .single hneeds⟩
    | tail _ hedge ih =>
        obtain ⟨s, t, hs, ht, hpath⟩ := ih
        obtain ⟨r, s', hr, hs', hneeds⟩ := (mem_dependencyEdges hdistinct h).mp hedge
        rw [hs] at hs'
        cases hs'
        exact ⟨r, t, hr, ht, .head hneeds hpath⟩
  · rintro ⟨r, t, hr, ht, hpath⟩
    induction hpath generalizing u with
    | single hneeds => exact .single ((mem_dependencyEdges hdistinct h).mpr ⟨r, _, hr, ht, hneeds⟩)
    | tail _ hneeds ih =>
        -- What stands between the two is a resource, too, and has a vertex.
        obtain ⟨w, hw⟩ := exists_resourceIn? hneeds.1
        exact .head ((mem_dependencyEdges hdistinct h).mpr ⟨_, _, hw, ht, hneeds⟩) (ih hw)

/-- The edges between resources have no cycle exactly when nothing needs itself. Since vertices
stand for resources one to one, cycles on both sides are the same. -/
theorem acyclic_dependencyEdges :
    Acyclic edges ↔ ∀ r, ¬ TransGen (Needs resources) r r := by
  constructor
  · intro hacyclic r hr
    obtain ⟨v, hv⟩ := exists_resourceIn? (mem_of_transGen_needs hr)
    exact hacyclic v ((transGen_edge_iff hdistinct h).mpr ⟨r, r, hv, hv, hr⟩)
  · intro hneeds v hv
    obtain ⟨r, t, hr, ht, hpath⟩ := (transGen_edge_iff hdistinct h).mp hv
    rw [hr] at ht
    cases ht
    exact hneeds r hpath

end Edges

/-- A path that does not end at the root uses no edge to the root. No edge leaves the root, so a
path that comes to it ends there. -/
theorem transGen_of_withRoot {edges : Edges} (h : Proper resources edges) {u v : Vertex}
    (hpath : TransGen (Edge (withRoot resources edges)) u v) :
    v = root ∨ TransGen (Edge edges) u v := by
  induction hpath with
  | single hedge =>
      rcases mem_withRoot.mp hedge with hedge | ⟨hroot, -⟩
      · exact Or.inr (.single hedge)
      · exact Or.inl hroot
  | tail _ hedge ih =>
      rcases mem_withRoot.mp hedge with hedge | ⟨hroot, -⟩
      · -- The path goes on from a resource, which is not the root.
        have hne := (h.source _ hedge).1
        exact Or.inr ((ih.resolve_left hne).tail hedge)
      · exact Or.inl hroot

/-- The edges to the root close no cycle. So it does not matter that the graph is sorted with
them. -/
theorem acyclic_withRoot {edges : Edges} (h : Proper resources edges) :
    Acyclic (withRoot resources edges) ↔ Acyclic edges := by
  constructor
  · intro hacyclic v hv
    exact hacyclic v (TransGen.mono (fun u w huw => mem_withRoot.mpr (Or.inl huw)) v v hv)
  · intro hacyclic v hv
    rcases transGen_of_withRoot h hv with rfl | hpath
    · obtain ⟨w, hedge, -⟩ := TransGen.head'_iff.mp hv
      exact (h.withRoot_source _ hedge).1 rfl
    · exact hacyclic v hpath

/-! ### When there is a graph -/

/-- Building succeeds when there are edges and they have no cycle, and not otherwise. Sorting is
the only step after the edges that can fail. -/
theorem exists_build_iff {registry : Registry} :
    (∃ g, build registry = .ok g) ↔
      ∃ edges, dependencyEdges registry.resources = .ok edges ∧ Acyclic edges := by
  constructor
  · rintro ⟨g, hbuild⟩
    obtain ⟨edges, hedges, -, hgraph, hsort⟩ := build_eq_ok hbuild
    have hproper := proper_dependencyEdges hedges
    refine ⟨edges, hedges, (acyclic_withRoot hproper).mp ?_⟩
    rw [hgraph] at hsort
    exact (Digraph.sort_eq_ok_iff (fun e he => (hproper.withRoot_source e he).2)
      hproper.withRoot_target).mp ⟨_, hsort⟩
  · rintro ⟨edges, hedges, hacyclic⟩
    have hproper := proper_dependencyEdges hedges
    -- The graph is sorted before and after the edges to the root are there.
    obtain ⟨first, hfirst⟩ := (Digraph.sort_eq_ok_iff (fun e he => (hproper.source e he).2)
      fun e he => (hproper.target e he).2).mpr hacyclic
    obtain ⟨order, hsecond⟩ := (Digraph.sort_eq_ok_iff
      (fun e he => (hproper.withRoot_source e he).2) hproper.withRoot_target).mpr
      ((acyclic_withRoot hproper).mpr hacyclic)
    rw [← sorted_eq_ok] at hfirst hsecond
    simp only [build, hedges, hfirst, hsecond, bind, Except.bind]
    exact ⟨_, rfl⟩

/-- In a registry that has a graph, every string that a resource waits for resolves. This is all
that is known of such strings: whether they are well formed, the builder does not check. -/
theorem exists_resolve?_of_build {registry : Registry} {g : Graph} (h : build registry = .ok g)
    {r : Resource} (hr : r ∈ registry.resources) {s : String} (hs : s ∈ r.dependencyReferences) :
    ∃ targets, resolve? registry.resources r s = some targets := by
  obtain ⟨edges, hedges, -⟩ := exists_build_iff.mp ⟨g, h⟩
  exact dependencyEdges_ok_iff_resolves.mp ⟨edges, hedges⟩ r hr s hs

/-- A registry has a graph exactly when every string of every resource denotes something
and nothing needs itself. -/
theorem build_eq_ok_iff {registry : Registry}
    (hdistinct : (registry.resources.map Resource.label).Nodup) :
    (∃ g, build registry = .ok g) ↔
      (∀ r ∈ registry.resources, ∀ s ∈ r.dependencyReferences,
        ∃ t, Denotes registry.resources r s t) ∧
      ∀ r, ¬ TransGen (Needs registry.resources) r r := by
  rw [exists_build_iff, ← dependencyEdges_ok_iff hdistinct]
  constructor
  · rintro ⟨edges, hedges, hacyclic⟩
    exact ⟨⟨edges, hedges⟩, (acyclic_dependencyEdges hdistinct hedges).mp hacyclic⟩
  · rintro ⟨⟨edges, hedges⟩, hneeds⟩
    exact ⟨edges, hedges, (acyclic_dependencyEdges hdistinct hedges).mpr hneeds⟩

/-! ### What the graph says -/

/-- An order of resources at vertices follows the order of the vertices. It is about any lists,
and is used for the order of creation. -/
theorem idxOf_filterMap_lt {α β : Type} [DecidableEq α] [DecidableEq β] {f : α → Option β}
    {xs : List α} (hnodup : (xs.filterMap f).Nodup) {u v : α} {t r : β} (hu : f u = some t)
    (hv : f v = some r) (hmem : v ∈ xs) (hlt : xs.idxOf u < xs.idxOf v) :
    (xs.filterMap f).idxOf t < (xs.filterMap f).idxOf r := by
  induction xs with
  | nil => cases hmem
  | cons x xs ih =>
      have hne : v ≠ x := by
        rintro rfl
        rw [List.idxOf_cons_self] at hlt
        exact Nat.not_lt_zero _ hlt
      have hvmem : v ∈ xs := (List.mem_cons.mp hmem).resolve_left hne
      have hrmem : r ∈ xs.filterMap f := List.mem_filterMap.mpr ⟨v, hvmem, hv⟩
      by_cases hux : u = x
      · -- Then `t` is the very first, and `r` is not, since it does not occur twice.
        subst hux
        rw [List.filterMap_cons_some hu] at hnodup ⊢
        have htr : t ≠ r := fun htr => (List.nodup_cons.mp hnodup).1 (htr ▸ hrmem)
        rw [List.idxOf_cons_self, List.idxOf_cons_ne _ htr]
        exact Nat.succ_pos _
      · rw [List.idxOf_cons_ne _ (Ne.symm hux), List.idxOf_cons_ne _ hne.symm,
          Nat.succ_lt_succ_iff] at hlt
        have humem : u ∈ xs :=
          List.idxOf_lt_length_iff.mp (hlt.trans (List.idxOf_lt_length_iff.mpr hvmem))
        have htmem : t ∈ xs.filterMap f := List.mem_filterMap.mpr ⟨u, humem, hu⟩
        -- Both stand behind `x`, whether or not there is something at `x`.
        cases hx : f x with
        | none =>
            rw [List.filterMap_cons_none hx] at hnodup ⊢
            exact ih hnodup hvmem hlt
        | some y =>
            rw [List.filterMap_cons_some hx] at hnodup ⊢
            obtain ⟨hy, hrest⟩ := List.nodup_cons.mp hnodup
            have hyt : y ≠ t := fun hyt => hy (hyt ▸ htmem)
            have hyr : y ≠ r := fun hyr => hy (hyr ▸ hrmem)
            rw [List.idxOf_cons_ne _ hyt, List.idxOf_cons_ne _ hyr, Nat.succ_lt_succ_iff]
            exact ih hrest hvmem hlt

/-- Everything that a graph lists of resources is their relation of needing: the direct
neighbours of each without repetition, the number of pairs, and an order of all of them in
which what is needed comes first. -/
structure Renders (g : Graph) (resources : List Resource) : Prop where
  nodup_dependencies : ∀ r ∈ resources, (g.dependencies r.label).Nodup
  mem_dependencies : ∀ r ∈ resources, ∀ t, t ∈ g.dependencies r.label ↔ Needs resources r t
  nodup_dependents : ∀ t ∈ resources, (g.dependents t.label).Nodup
  mem_dependents : ∀ t ∈ resources, ∀ r, r ∈ g.dependents t.label ↔ Needs resources r t
  dependencyCount_eq :
    {pair : Resource × Resource | Needs resources pair.1 pair.2}.encard = g.dependencyCount
  inOrder_perm : g.inOrder.Perm resources
  idxOf_lt : ∀ r t, Needs resources r t → g.inOrder.idxOf t < g.inOrder.idxOf r

/-- What stands at given vertices. The root has no resource and adds nothing. -/
theorem mem_resourcesAt {g : Graph} {vs : List Vertex} {t : Resource} :
    t ∈ g.resourcesAt vs ↔ ∃ v ∈ vs, resourceIn? g.resources v = some t :=
  List.mem_filterMap

namespace Coherent

variable {g : Graph}

/-- No resource stands at two vertices. Two equal ones would share their text, which a coherent
graph excludes. -/
theorem resourceIn?_inj (h : g.Coherent) {u v : Vertex} {t : Resource}
    (hu : resourceIn? g.resources u = some t) (hv : resourceIn? g.resources v = some t) :
    u = v := by
  obtain ⟨j, rfl, hj⟩ := resourceIn?_eq_some.mp hu
  obtain ⟨k, rfl, hk⟩ := resourceIn?_eq_some.mp hv
  rw [position_unique h.distinct hj hk rfl]

/-- Vertices that are not repeated have resources that are not repeated. -/
theorem nodup_resourcesAt (h : g.Coherent) {vs : List Vertex} (hvs : vs.Nodup) :
    (g.resourcesAt vs).Nodup :=
  hvs.filterMap fun _ _ _ hu hv => h.resourceIn?_inj hu hv

/-- The order of creation lists every resource, and lists it once. As a permutation it says both,
and the count as well. -/
theorem inOrder_perm (h : g.Coherent) : g.inOrder.Perm g.resources := by
  refine (List.perm_ext_iff_of_nodup (h.nodup_resourcesAt h.ordered.nodup)
    h.distinct.of_map).mpr fun t => ?_
  rw [mem_resourcesAt]
  constructor
  · rintro ⟨v, -, hv⟩
    exact mem_of_resourceIn? hv
  · intro ht
    obtain ⟨v, hv⟩ := exists_resourceIn? ht
    obtain ⟨k, rfl, hk⟩ := resourceIn?_eq_some.mp hv
    exact ⟨k + 1, (h.ordered.mem_iff _).mpr (Nat.succ_lt_succ (size_of_getElem? hk)), hv⟩

end Coherent

namespace BuiltFrom

variable {registry : Registry} {g : Graph}

/-- A graph has the resources of its registry, in the same order. So positions mean the same in
both. -/
theorem resources_eq (h : g.BuiltFrom registry) : g.resources = registry.resources := by
  obtain ⟨_, -, hresources, -, -⟩ := build_eq_ok h.built
  exact hresources

/-- The edges between resources are the pairs of `Needs`, turned around. Edges to the root are
told apart by their end. -/
theorem mem_edges_iff (h : g.BuiltFrom registry) {u v : Vertex} :
    (u, v) ∈ g.edges ∧ v ≠ root ↔ ∃ r t, resourceIn? g.resources v = some r ∧
      resourceIn? g.resources u = some t ∧ Needs g.resources r t := by
  obtain ⟨edges, hedges, hresources, hgraph, -⟩ := build_eq_ok h.built
  rw [hgraph, hresources, ← mem_dependencyEdges h.distinct hedges, mem_withRoot]
  constructor
  · rintro ⟨hedge | ⟨hroot, -⟩, hne⟩
    · exact hedge
    · exact absurd hroot hne
  · intro hedge
    exact ⟨Or.inl hedge, ((proper_dependencyEdges hedges).target _ hedge).1⟩

/-- One resource depends on another in the graph exactly when it needs it. The walks speak of
positions and `DependsOn`, and this ties them to the declarations. -/
theorem dependsOn_iff (h : g.BuiltFrom registry) {p q : Nat} {r t : Resource}
    (hp : g.resources[p]? = some r) (hq : g.resources[q]? = some t) :
    g.DependsOn p q ↔ Needs g.resources r t := by
  constructor
  · intro hdepends
    obtain ⟨r', t', hr, ht, hneeds⟩ := h.mem_edges_iff.mp ⟨hdepends, Nat.succ_ne_zero p⟩
    cases hp.symm.trans hr
    cases hq.symm.trans ht
    exact hneeds
  · intro hneeds
    exact (h.mem_edges_iff (u := q + 1) (v := p + 1) |>.mpr ⟨r, t, hp, hq, hneeds⟩).1

/-- A resource lists as dependencies exactly what it needs. The list is asked for by its reference
text, as a user would ask. -/
theorem mem_dependencies (h : g.BuiltFrom registry) {r t : Resource} (hr : r ∈ g.resources) :
    t ∈ g.dependencies r.label ↔ Needs g.resources r t := by
  obtain ⟨p, hp⟩ := List.mem_iff_getElem?.mp hr
  unfold dependencies
  rw [mem_resourcesAt]
  constructor
  · rintro ⟨v, hv, ht⟩
    obtain ⟨q, rfl, hq⟩ := resourceIn?_eq_some.mp ht
    exact (h.dependsOn_iff hp hq).mp ((h.coherent.mem_dependencyVertices hp).mp hv)
  · intro hneeds
    obtain ⟨q, hq⟩ := List.mem_iff_getElem?.mp hneeds.mem
    have hdepends := (h.dependsOn_iff hp hq).mpr hneeds
    exact ⟨q + 1, (h.coherent.mem_dependencyVertices hp).mpr hdepends, hq⟩

/-- A resource lists as dependents exactly what needs it. Leaves have an empty list, since the
root is no dependent. -/
theorem mem_dependents (h : g.BuiltFrom registry) {r t : Resource} (ht : t ∈ g.resources) :
    r ∈ g.dependents t.label ↔ Needs g.resources r t := by
  obtain ⟨q, hq⟩ := List.mem_iff_getElem?.mp ht
  unfold dependents
  rw [mem_resourcesAt]
  constructor
  · rintro ⟨v, hv, hr⟩
    obtain ⟨p, rfl, hp⟩ := resourceIn?_eq_some.mp hr
    exact (h.dependsOn_iff hp hq).mp ((h.coherent.mem_dependentVertices hq).mp hv)
  · intro hneeds
    obtain ⟨p, hp⟩ := List.mem_iff_getElem?.mp hneeds.1
    have hdepends := (h.dependsOn_iff hp hq).mpr hneeds
    exact ⟨p + 1, (h.coherent.mem_dependentVertices hq).mpr hdepends, hp⟩

/-- The count of the dependencies is that of the pairs of which one needs the other. A pair counts
once, and the edges to the root do not count. -/
theorem encard_needs (h : g.BuiltFrom registry) :
    {pair : Resource × Resource | Needs g.resources pair.1 pair.2}.encard =
      g.dependencyCount := by
  -- Each pair stands for the edge between the vertices of its resources.
  let edgeOf : Resource × Resource → Vertex × Vertex := fun pair =>
    (g.resources.idxOf pair.2 + 1, g.resources.idxOf pair.1 + 1)
  have hvertex : ∀ t ∈ g.resources, resourceIn? g.resources (g.resources.idxOf t + 1) = some t :=
    fun t ht => List.getElem?_idxOf ht
  have hinj : Set.InjOn edgeOf {pair | Needs g.resources pair.1 pair.2} := by
    rintro ⟨r, t⟩ hneeds ⟨r', t'⟩ hneeds' heq
    obtain ⟨ht, hr⟩ := Prod.mk.inj heq
    rw [Nat.succ_inj, List.idxOf_inj hneeds.mem] at ht
    rw [Nat.succ_inj, List.idxOf_inj hneeds.1] at hr
    exact Prod.ext hr ht
  have himage : edgeOf '' {pair | Needs g.resources pair.1 pair.2} =
      {e | e ∈ g.edges.filter fun edge => edge.2 ≠ root} := by
    ext ⟨u, v⟩
    simp only [Set.mem_image, Set.mem_ofPred_eq, List.mem_filter, decide_eq_true_eq,
      h.mem_edges_iff]
    constructor
    · rintro ⟨⟨r, t⟩, hneeds, heq⟩
      obtain ⟨rfl, rfl⟩ := Prod.mk.inj heq
      exact ⟨r, t, hvertex r hneeds.1, hvertex t hneeds.mem, hneeds⟩
    · rintro ⟨r, t, hr, ht, hneeds⟩
      refine ⟨(r, t), hneeds, Prod.ext ?_ ?_⟩
      · exact h.coherent.resourceIn?_inj (hvertex t hneeds.mem) ht
      · exact h.coherent.resourceIn?_inj (hvertex r hneeds.1) hr
  have hnodup : (g.edges.filter fun edge => edge.2 ≠ root).Nodup := h.coherent.nodup.filter _
  rw [← hinj.encard_image, himage, ← List.coe_toFinset, Set.encard_coe_eq_coe_finsetCard,
    List.toFinset_card_of_nodup hnodup]
  rfl

/-- A graph that was built renders the needs of the registry's resources. All parts have been
shown above, and are put together here. -/
theorem renders (h : g.BuiltFrom registry) : g.Renders registry.resources := by
  rw [← h.resources_eq]
  exact
    { nodup_dependencies := fun r _ =>
        h.coherent.nodup_resourcesAt (h.coherent.nodup_dependencyVertices r.label)
      mem_dependencies := fun r hr t => h.mem_dependencies hr
      nodup_dependents := fun t _ =>
        h.coherent.nodup_resourcesAt (h.coherent.nodup_dependentVertices t.label)
      mem_dependents := fun t ht r => h.mem_dependents ht
      dependencyCount_eq := h.encard_needs
      inOrder_perm := h.coherent.inOrder_perm
      idxOf_lt := fun r t hneeds => by
        -- What is needed has an edge to what needs it, and edges lead forward in the order.
        obtain ⟨u, hu⟩ := exists_resourceIn? hneeds.mem
        obtain ⟨v, hv⟩ := exists_resourceIn? hneeds.1
        obtain ⟨hedge, -⟩ := h.mem_edges_iff.mpr ⟨r, t, hv, hu, hneeds⟩
        refine idxOf_filterMap_lt (h.coherent.nodup_resourcesAt h.coherent.ordered.nodup) hu hv
          ?_ (h.coherent.ordered.idxOf_lt u v hedge)
        exact (h.coherent.ordered.mem_iff v).mpr (h.coherent.target _ hedge) }

end BuiltFrom

/-- Building the graph of a registry without shared reference texts succeeds exactly when
every dependency string of every resource denotes something and no resource needs itself,
directly or not. What it gives is the relation of needing, in a valid order. -/
theorem build_renders (registry : Registry)
    (hdistinct : (registry.resources.map Resource.label).Nodup) :
    ((∃ g, build registry = .ok g) ↔
      (∀ r ∈ registry.resources, ∀ s ∈ r.dependencyReferences,
        ∃ t, Denotes registry.resources r s t) ∧
      ∀ r, ¬ TransGen (Needs registry.resources) r r) ∧
    ∀ g, build registry = .ok g → g.Renders registry.resources :=
  ⟨build_eq_ok_iff hdistinct, fun _ hbuild => BuiltFrom.renders ⟨hbuild, hdistinct⟩⟩

/-- The two names of the network make one dependency, and the module makes two. So the three
strings of the registry make three dependencies, though not one each. -/
theorem build_renders_jobAfterShop :
    (Registry.jobAfterShop.resources.map Resource.label).Nodup ∧
    ∃ g, build Registry.jobAfterShop = .ok g ∧ g.Renders Registry.jobAfterShop.resources ∧
      g.dependencyCount = 3 := by
  have hdistinct : (Registry.jobAfterShop.resources.map Resource.label).Nodup := by decide
  exact ⟨hdistinct, _, rfl, (build_renders Registry.jobAfterShop hdistinct).2 _ rfl, rfl⟩

end Graph

end Moorage
