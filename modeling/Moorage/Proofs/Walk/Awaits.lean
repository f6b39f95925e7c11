import Moorage.Proofs.Graph.Dependence
import Moorage.Walk

/-!
# `Moorage.Proofs.Walk.Awaits`: what waits for what in a walk

A walk that applies follows the dependencies, and one that destroys follows them the
other way round. `WalkKind.Awaits` is the one relation for both, and the theorems say
that the three listings that a walk reads are exact for it:

* `mem_waitsOn`: what a resource waits for.
* `mem_releases`: what waits for a resource.
* `mem_blockedBy`: what waits for a resource, directly or not.

No resource waits for itself (`not_awaits_self`), and no chain of resources that wait
for each other is endless (`awaits_wellFounded`).
-/

set_option autoImplicit false

namespace Moorage

open Relation (TransGen)

namespace WalkKind

/-- In a walk over the graph the resource at position `p` waits for the one at
position `q`. -/
def Awaits (g : Graph) : WalkKind → Nat → Nat → Prop
  | apply, p, q => g.DependsOn p q
  | destroy, p, q => g.DependsOn q p

/-- What a resource waits for when resources are destroyed, directly or not, are the
resources that depend on it. -/
theorem transGen_awaits_destroy {g : Graph} {p q : Nat} :
    TransGen (destroy.Awaits g) p q ↔ TransGen g.DependsOn q p := by
  have hswap : destroy.Awaits g = Function.swap g.DependsOn := rfl
  rw [hswap, Relation.transGen_swap]

end WalkKind

namespace Walk

variable {g : Graph} {kind : WalkKind}

/-! ### Reference texts and positions -/

/-- The text of the resource at a position of the graph. Beyond the graph there is no resource,
and the text that is given there belongs to none. -/
theorem exists_labelAt {p : Nat} (hp : p < g.size) :
    ∃ r, g.resources[p]? = some r ∧ labelAt g p = r.label := by
  refine ⟨g.resources[p], List.getElem?_eq_getElem hp, ?_⟩
  unfold labelAt
  rw [List.getElem?_eq_getElem hp]
  rfl

/-- Different positions have different texts, because no two resources of the graph share one. So
a walk may go by texts where the theorems go by positions. -/
theorem labelAt_injective (h : g.Coherent) {p q : Nat} (hp : p < g.size) (hq : q < g.size)
    (heq : labelAt g p = labelAt g q) : p = q := by
  obtain ⟨r, hr, hpr⟩ := exists_labelAt hp
  obtain ⟨s, hs, hqs⟩ := exists_labelAt hq
  rw [hpr, hqs] at heq
  exact Graph.position_unique h.distinct hr hs heq

/-! ### The listings of a walk -/

/-- Both ends of a wait are positions of the graph. The root is none, and nothing waits for it. -/
theorem lt_of_awaits (h : g.Coherent) {p q : Nat} (hpq : kind.Awaits g p q) :
    p < g.size ∧ q < g.size := by
  cases kind with
  | apply => exact h.lt_of_dependsOn hpq
  | destroy => exact (h.lt_of_dependsOn hpq).symm

/-- A resource waits for exactly the ones that the walk lists for it. The listing is of vertices
by text, and the relation is of positions. -/
theorem mem_waitsOn (h : g.Coherent) {p q : Nat} (hp : p < g.size) :
    q ∈ Graph.positionsOf (kind.waitsOn g (labelAt g p)) ↔ kind.Awaits g p q := by
  obtain ⟨r, hr, hlabel⟩ := exists_labelAt hp
  rw [Graph.mem_positionsOf, hlabel]
  cases kind with
  | apply => exact h.mem_dependencyVertices hr
  | destroy => exact h.mem_dependentVertices hr

/-- The ones that a resource waits for are listed once, so that the counter of the resource is
their number and not more. -/
theorem nodup_waitsOn (h : g.Coherent) (p : Nat) :
    (Graph.positionsOf (kind.waitsOn g (labelAt g p))).Nodup := by
  cases kind with
  | apply => exact Graph.nodup_positionsOf (h.nodup_dependencyVertices _)
  | destroy => exact Graph.nodup_positionsOf (h.nodup_dependentVertices _)

/-- As many are counted for a resource as are listed: the root is not among them, and would be
counted otherwise. -/
theorem length_waitsOn (p : Nat) :
    (kind.waitsOn g (labelAt g p)).length
      = (Graph.positionsOf (kind.waitsOn g (labelAt g p))).length := by
  cases kind with
  | apply => exact (Graph.length_positionsOf (Graph.root_notMem_dependencyVertices _)).symm
  | destroy => exact (Graph.length_positionsOf (Graph.root_notMem_dependentVertices _)).symm

/-- A resource releases exactly the ones that wait for it. This is the listing against the
direction of the waits. -/
theorem mem_releases (h : g.Coherent) {p q : Nat} (hp : p < g.size) :
    q ∈ Graph.positionsOf (kind.releases g (labelAt g p)) ↔ kind.Awaits g q p := by
  obtain ⟨r, hr, hlabel⟩ := exists_labelAt hp
  rw [Graph.mem_positionsOf, hlabel]
  cases kind with
  | apply => exact h.mem_dependentVertices hr
  | destroy => exact h.mem_dependencyVertices hr

/-- The ones that a resource releases are listed once, so that no counter is lowered twice for
it. -/
theorem nodup_releases (h : g.Coherent) (p : Nat) :
    (Graph.positionsOf (kind.releases g (labelAt g p))).Nodup := by
  cases kind with
  | apply => exact Graph.nodup_positionsOf (h.nodup_dependentVertices _)
  | destroy => exact Graph.nodup_positionsOf (h.nodup_dependencyVertices _)

/-- What the failure of a resource blocks is what waits for it, directly or not, each
listed once. -/
theorem mem_blockedBy (h : g.Coherent) {p : Nat} (hp : p < g.size) :
    (Graph.positionsOf (kind.blockedBy g (labelAt g p))).Nodup ∧
      ∀ q, q ∈ Graph.positionsOf (kind.blockedBy g (labelAt g p)) ↔
        TransGen (kind.Awaits g) q p := by
  obtain ⟨r, hr, hlabel⟩ := exists_labelAt hp
  rw [hlabel]
  cases kind with
  | apply =>
      obtain ⟨vs, hvs, hnodup, hmem⟩ := h.descendantVertices_eq hr
      simp only [WalkKind.blockedBy, hvs, Except.toOption, Option.getD_some]
      exact ⟨Graph.nodup_positionsOf hnodup, fun q => Graph.mem_positionsOf.trans (hmem q)⟩
  | destroy =>
      obtain ⟨vs, hvs, hnodup, hmem⟩ := h.ancestorVertices_eq hr
      simp only [WalkKind.blockedBy, hvs, Except.toOption, Option.getD_some]
      refine ⟨Graph.nodup_positionsOf hnodup, fun q => ?_⟩
      rw [Graph.mem_positionsOf, hmem, WalkKind.transGen_awaits_destroy]

/-- Both ends of a chain of waits are positions of the graph. The chain has at least one wait. -/
theorem lt_of_transGen_awaits (h : g.Coherent) {p q : Nat}
    (hpq : TransGen (kind.Awaits g) p q) : p < g.size ∧ q < g.size := by
  induction hpq with
  | single hstep => exact lt_of_awaits h hstep
  | tail _ hstep ih => exact ⟨ih.1, (lt_of_awaits h hstep).2⟩

/-- No resource waits for itself, directly or not, since the graph is sorted. -/
theorem not_awaits_self (h : g.Coherent) (p : Nat) : ¬ TransGen (kind.Awaits g) p p := by
  cases kind with
  | apply => exact h.not_dependsOn_self p
  | destroy =>
      rw [WalkKind.transGen_awaits_destroy]
      exact h.not_dependsOn_self p

/-- No chain of resources that wait for each other is endless. Proofs about what everything comes
to are by induction along it. -/
theorem awaits_wellFounded (h : g.Coherent) :
    WellFounded fun q p => kind.Awaits g p q := by
  -- The place in the order of creation rises along the dependencies.
  have hrank : ∀ {p q}, g.DependsOn p q →
      g.order.idxOf (q + 1) < g.order.idxOf (p + 1) ∧ g.order.idxOf (p + 1) < g.order.length :=
    fun {p q} hpq => ⟨h.ordered.idxOf_lt _ _ hpq,
      List.idxOf_lt_length_iff.mpr ((h.ordered.mem_iff _).mpr (h.target _ hpq))⟩
  cases kind with
  | apply =>
      refine Subrelation.wf (fun {q p} hpq => ?_)
        (measure fun p => g.order.idxOf (p + 1)).wf
      exact (hrank hpq).1
  | destroy =>
      refine Subrelation.wf (fun {q p} hqp => ?_)
        (measure fun p => g.order.length - g.order.idxOf (p + 1)).wf
      have hlt := hrank hqp
      show g.order.length - g.order.idxOf (q + 1) < g.order.length - g.order.idxOf (p + 1)
      omega

end Walk

end Moorage
