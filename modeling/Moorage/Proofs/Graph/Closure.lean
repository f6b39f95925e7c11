import Moorage.Proofs.Graph.Build

/-!
# `Moorage.Proofs.Graph.Closure`: what a resource rests on and what rests on it

`Graph.ancestors` and `Graph.descendants` search breadth first, the first of them against
the edges, in a graph that has one vertex more than there are resources. In a graph that was
built both list the closure of `Needs`, the relation that the dependency strings of the
registry give.

The extra vertex is the root. Every resource without needs leads to it and nothing leads from it, so
a search along the edges may come to it and stops there, and one against the edges never does. The
listings leave it out. That each of them has a resource once follows from the search, and
that one mirrors the other from the edges' being turned around.

* `BuiltFrom.transGen_dependsOn_iff`: chains of edges between resources are chains of needs.
* `BuiltFrom.closes`: the two listings, how each mirrors the other, and when they fail.
-/

set_option autoImplicit false

namespace Moorage.Graph

open Moorage.Digraph (Vertex)
open Relation (TransGen)

variable {g : Graph} {registry : Registry}

/-- What is needed, directly or not, is among the resources. A string denotes declared resources
only. -/
theorem mem_of_transGen_needs_right {resources : List Resource} {r t : Resource}
    (h : TransGen (Needs resources) r t) : t ∈ resources := by
  obtain ⟨u, -, hut⟩ := TransGen.tail'_iff.mp h
  exact hut.mem

/-- The resources at vertices that are known by the positions `R`, when those are the
positions of the resources `S`. -/
theorem mem_resourcesAt_iff {vs : List Vertex} {R : Nat → Prop} {S : Resource → Prop}
    (hvs : ∀ q, q + 1 ∈ vs ↔ R q)
    (hpositions : ∀ q t, g.resources[q]? = some t → (R q ↔ S t))
    (hresources : ∀ t, S t → t ∈ g.resources) (t : Resource) :
    t ∈ g.resourcesAt vs ↔ S t := by
  rw [mem_resourcesAt]
  constructor
  · rintro ⟨v, hv, ht⟩
    obtain ⟨q, rfl, hq⟩ := resourceIn?_eq_some.mp ht
    exact (hpositions q t hq).mp ((hvs q).mp hv)
  · intro hS
    obtain ⟨q, hq⟩ := List.mem_iff_getElem?.mp (hresources t hS)
    exact ⟨q + 1, (hvs q).mpr ((hpositions q t hq).mpr hS), hq⟩

/-- The listings of a graph close its resources under needing: below a resource are those
that need it, directly or not, and above it are those that it needs. None is listed twice,
and none below or above itself. A text that is no reference has neither listing. -/
structure Closes (g : Graph) (resources : List Resource) : Prop where
  descendants_eq : ∀ r ∈ resources, ∃ below, g.descendants r.label = .ok below ∧ below.Nodup ∧
    r ∉ below ∧ ∀ t, t ∈ below ↔ TransGen (Needs resources) t r
  ancestors_eq : ∀ r ∈ resources, ∃ above, g.ancestors r.label = .ok above ∧ above.Nodup ∧
    r ∉ above ∧ ∀ t, t ∈ above ↔ TransGen (Needs resources) r t
  mirrored : ∀ a ∈ resources, ∀ b ∈ resources, ∀ below above,
    g.descendants b.label = .ok below → g.ancestors a.label = .ok above →
      (a ∈ below ↔ b ∈ above)
  notFound : ∀ label, (∀ r ∈ resources, r.label ≠ label) →
    g.descendants label = .error (.notFound "resource" label) ∧
      g.ancestors label = .error (.notFound "resource" label)

namespace BuiltFrom

/-- One resource depends on another through edges of the graph exactly when it needs it,
directly or not. -/
theorem transGen_dependsOn_iff (h : g.BuiltFrom registry) {p q : Nat} {r t : Resource}
    (hp : g.resources[p]? = some r) (hq : g.resources[q]? = some t) :
    TransGen g.DependsOn p q ↔ TransGen (Needs g.resources) r t := by
  constructor
  · intro hpath
    induction hpath generalizing t with
    | single hstep => exact .single ((h.dependsOn_iff hp hq).mp hstep)
    | tail _ hstep ih =>
        -- The edge leads to the position of a resource, which the path so far ends at.
        have hlt := (h.coherent.lt_of_dependsOn hstep).1
        have hk := List.getElem?_eq_getElem hlt
        exact (ih hk).tail ((h.dependsOn_iff hk hq).mp hstep)
  · intro hpath
    induction hpath generalizing q with
    | single hneeds => exact .single ((h.dependsOn_iff hp hq).mpr hneeds)
    | tail _ hneeds ih =>
        obtain ⟨k, hk⟩ := List.mem_iff_getElem?.mp hneeds.1
        exact (ih hk).tail ((h.dependsOn_iff hk hq).mpr hneeds)

/-- Nothing in a graph that was built needs itself, directly or not. The graph has an order, and
edges go forward in it. -/
theorem not_needs_self (h : g.BuiltFrom registry) (r : Resource) :
    ¬ TransGen (Needs g.resources) r r := by
  rw [h.resources_eq]
  exact ((build_eq_ok_iff h.distinct).mp ⟨g, h.built⟩).2 r

/-- What needs a resource, directly or not, is listed below it, and listed once. The resource
itself is not in the list, since nothing needs itself. -/
theorem descendants_eq (h : g.BuiltFrom registry) {r : Resource} (hr : r ∈ g.resources) :
    ∃ below, g.descendants r.label = .ok below ∧ below.Nodup ∧
      ∀ t, t ∈ below ↔ TransGen (Needs g.resources) t r := by
  obtain ⟨p, hp⟩ := List.mem_iff_getElem?.mp hr
  obtain ⟨vs, hclosure, hnodup, hmem⟩ := h.coherent.descendantVertices_eq hp
  refine ⟨g.resourcesAt vs, ?_, h.coherent.nodup_resourcesAt hnodup, ?_⟩
  · unfold descendants
    rw [hclosure]
    rfl
  · exact mem_resourcesAt_iff hmem (fun q t hq => h.transGen_dependsOn_iff hq hp)
      fun t => mem_of_transGen_needs

/-- What a resource needs, directly or not, is listed above it, and listed once. The two lists
mirror each other, as the relation on the right is the same. -/
theorem ancestors_eq (h : g.BuiltFrom registry) {r : Resource} (hr : r ∈ g.resources) :
    ∃ above, g.ancestors r.label = .ok above ∧ above.Nodup ∧
      ∀ t, t ∈ above ↔ TransGen (Needs g.resources) r t := by
  obtain ⟨p, hp⟩ := List.mem_iff_getElem?.mp hr
  obtain ⟨vs, hclosure, hnodup, hmem⟩ := h.coherent.ancestorVertices_eq hp
  refine ⟨g.resourcesAt vs, ?_, h.coherent.nodup_resourcesAt hnodup, ?_⟩
  · unfold ancestors
    rw [hclosure]
    rfl
  · exact mem_resourcesAt_iff hmem (fun q t hq => h.transGen_dependsOn_iff hp hq)
      fun t => mem_of_transGen_needs_right

end BuiltFrom

/-- No search begins at a text that is the reference of no resource. It is refused instead, with
the text as it was given. -/
theorem closure_eq_notFound {label : String} (hlabel : ∀ r ∈ g.resources, r.label ≠ label)
    (next : Vertex → List Vertex) :
    g.closure next label = .error (.notFound "resource" label) := by
  unfold closure vertex?
  rw [vertexIn?_eq_none.mpr hlabel]

/-- The descendants and the ancestors of the resources of a graph that was built are the closure
of what its registry says that they need. A text that belongs to none of them is refused. -/
theorem BuiltFrom.closes (h : g.BuiltFrom registry) : g.Closes registry.resources := by
  rw [← h.resources_eq]
  refine ⟨fun r hr => ?_, fun r hr => ?_, fun a ha b hb below above hbelow habove => ?_,
    fun label hlabel => ⟨?_, ?_⟩⟩
  · obtain ⟨below, hbelow, hnodup, hmem⟩ := h.descendants_eq hr
    exact ⟨below, hbelow, hnodup, mt (hmem r).mp (h.not_needs_self r), hmem⟩
  · obtain ⟨above, habove, hnodup, hmem⟩ := h.ancestors_eq hr
    exact ⟨above, habove, hnodup, mt (hmem r).mp (h.not_needs_self r), hmem⟩
  · -- Both say that `a` needs `b`, directly or not.
    obtain ⟨_, hbelow', -, hmem⟩ := h.descendants_eq hb
    obtain ⟨_, habove', -, hmem'⟩ := h.ancestors_eq ha
    cases hbelow.symm.trans hbelow'
    cases habove.symm.trans habove'
    rw [hmem, hmem']
  · exact congrArg (Except.map g.resourcesAt) (closure_eq_notFound hlabel _)
  · exact congrArg (Except.map g.resourcesAt) (closure_eq_notFound hlabel _)

/-- The job comes after the shop's network for its own sake and for that of the container on
it, and is listed below the network once. -/
theorem closes_jobAfterShop :
    ∃ g : Graph, g.BuiltFrom Registry.jobAfterShop ∧
      g.Closes Registry.jobAfterShop.resources ∧
      (g.descendants "network.net.shop").map (·.map Resource.label) =
        .ok ["container.job", "container.web.shop"] := by
  have hdistinct : (Registry.jobAfterShop.resources.map Resource.label).Nodup := by decide
  exact ⟨_, ⟨rfl, hdistinct⟩, BuiltFrom.closes ⟨rfl, hdistinct⟩, rfl⟩

end Moorage.Graph
