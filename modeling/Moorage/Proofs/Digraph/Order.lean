import Mathlib.Data.List.Nodup
import Mathlib.Data.List.Perm.Subperm
import Mathlib.Logic.Relation
import Moorage.Graph.Digraph
import Moorage.Proofs.Fold

/-!
# `Moorage.Proofs.Digraph.Order`: orders that respect every edge

`Digraph.sort` searches depth first and then checks the order that it found. The
search is bounded by fuel, and an order is of use only if no vertex is missing
from it. The theorems:

* `finishOrder_ok`: the search lists every vertex below the bound exactly once,
  and a vertex with an edge to itself makes it fail. The fuel never runs out: the
  vertices that are met but not finished lie on one path, and each level of the
  search adds one to them.
* `sort_ordered`: a sorted order is `Ordered`, so every edge leads forward in it.
* `Ordered.idxOf_lt_of_transGen`: so does every path, and no vertex reaches
  itself.

`Search.Sound` holds at any time of a search, and `Search.Extends` of any part of it. The second
is a relation because a search is recursive in two ways, over the vertices and down the path, and
what was met at one level stays met at the others. `Fuelled` weighs the two against each other: the
open vertices and the fuel that is left are together more than there are vertices.

The order is checked after the search. That a graph without cycles always passes is not said here,
as it takes more than the search: see the module on acyclic graphs.
-/

set_option autoImplicit false

namespace Moorage.Digraph

variable {edges : Edges} {count : Nat}

/-- An edge leads from the first vertex to the second. -/
def Edge (edges : Edges) (u v : Vertex) : Prop := (u, v) ∈ edges

/-- The successors of a vertex are where its edges lead. -/
@[simp]
theorem mem_successors {v w : Vertex} : w ∈ successors edges v ↔ (v, w) ∈ edges := by
  simp [successors]

/-- The predecessors of a vertex are where edges to it come from. -/
@[simp]
theorem mem_predecessors {v w : Vertex} : w ∈ predecessors edges v ↔ (w, v) ∈ edges := by
  simp [predecessors]

/-- Without repeated edges no successor is repeated: two edges from one vertex
differ in their targets. -/
theorem nodup_successors (h : edges.Nodup) (v : Vertex) : (successors edges v).Nodup := by
  refine List.Nodup.map_on ?_ (h.filter _)
  intro e he f hf hef
  have hev : e.1 = v := by simpa using (List.mem_filter.mp he).2
  have hfv : f.1 = v := by simpa using (List.mem_filter.mp hf).2
  exact Prod.ext (hev.trans hfv.symm) hef

/-- Without repeated edges no predecessor is repeated. Two edges to one vertex differ in their
sources. -/
theorem nodup_predecessors (h : edges.Nodup) (v : Vertex) : (predecessors edges v).Nodup := by
  refine List.Nodup.map_on ?_ (h.filter _)
  intro e he f hf hef
  have hev : e.2 = v := by simpa using (List.mem_filter.mp he).2
  have hfv : f.2 = v := by simpa using (List.mem_filter.mp hf).2
  exact Prod.ext hef (hev.trans hfv.symm)

/-- Vertices below a bound, none repeated, are no more than the bound. The fuel of a search is
measured with this. -/
theorem length_le_of_lt {vs : List Vertex} (hnodup : vs.Nodup) (hlt : ∀ v ∈ vs, v < count) :
    vs.length ≤ count := by
  have hsub : vs ⊆ List.range count := fun v hv => List.mem_range.mpr (hlt v hv)
  have hle := (List.subperm_of_subset hnodup hsub).length_le
  rwa [List.length_range] at hle

/-! ### The depth-first search -/

namespace Search

/-- What holds of a search at any time: vertices are met once and finished once,
only met ones are finished, and none met has an edge to itself. -/
structure Sound (edges : Edges) (count : Nat) (s : Search) : Prop where
  met_nodup : s.met.Nodup
  met_lt : ∀ v ∈ s.met, v < count
  finished_nodup : s.finished.Nodup
  finished_met : ∀ v ∈ s.finished, v ∈ s.met
  loopless : ∀ v ∈ s.met, (v, v) ∉ edges

/-- What a part of the search does: it forgets nothing, finishes only vertices that
it met itself, and leaves as many open as there were. -/
structure Extends (s t : Search) : Prop where
  met : ∀ v ∈ s.met, v ∈ t.met
  finished : ∀ v ∈ t.finished, v ∈ s.finished ∨ v ∉ s.met
  opened : t.met.length + s.finished.length = s.met.length + t.finished.length

/-- A part of the search in which nothing is done. -/
theorem Extends.refl (s : Search) : Extends s s :=
  ⟨fun _ h => h, fun _ h => Or.inl h, rfl⟩

/-- Two parts of the search one after the other. What the second finished was not met when the
first began, or the first had finished it. -/
theorem Extends.trans {s t u : Search} (hst : Extends s t) (htu : Extends t u) :
    Extends s u := by
  refine ⟨fun v hv => htu.met v (hst.met v hv), fun v hv => ?_, ?_⟩
  · rcases htu.finished v hv with ht | ht
    · exact hst.finished v ht
    · exact Or.inr fun hs => ht (hst.met v hs)
  · have h1 := hst.opened
    have h2 := htu.opened
    omega

/-- More vertices are open than the bound leaves fuel for, or it would have run out. An open
vertex was met and is not finished. -/
def Fuelled (count fuel : Nat) (s : Search) : Prop :=
  count + s.finished.length < fuel + s.met.length

/-- A part of the search leaves as many vertices open as there were, so the fuel still suffices. -/
theorem Fuelled.of_extends {fuel : Nat} {s t : Search} (h : Fuelled count fuel s)
    (hst : Extends s t) : Fuelled count fuel t := by
  have hopen := hst.opened
  unfold Fuelled at h ⊢
  omega

/-- Fuel never runs out: more vertices would be open than there are below the bound. -/
theorem Sound.not_fuelled_zero {s : Search} (h : Sound edges count s) : ¬ Fuelled count 0 s := by
  have hle := length_le_of_lt h.met_nodup h.met_lt
  unfold Fuelled
  omega

/-- Meeting a vertex takes one level of fuel, and opens one vertex more. -/
theorem Fuelled.meet {fuel : Nat} {s : Search} (h : Fuelled count (fuel + 1) s) (v : Vertex) :
    Fuelled count fuel { s with met := v :: s.met } := by
  unfold Fuelled at h ⊢
  simp only [List.length_cons]
  omega

/-- The state in which nothing was met. -/
theorem sound_empty : Sound edges count {} := by constructor <;> simp

/-- In the beginning no vertex is open, and there is one more level of fuel than there are
vertices. -/
theorem fuelled_empty : Fuelled count (count + 1) {} := by simp [Fuelled]

/-- The state in which `v` was just met. It was not met before, is below the bound and has no edge
to itself. -/
theorem Sound.meet {s : Search} (h : Sound edges count s) {v : Vertex} (hv : v < count)
    (hnew : v ∉ s.met) (hloop : (v, v) ∉ edges) :
    Sound edges count { s with met := v :: s.met } where
  met_nodup := List.nodup_cons.mpr ⟨hnew, h.met_nodup⟩
  met_lt u hu := by
    rcases List.mem_cons.mp hu with rfl | hu
    · exact hv
    · exact h.met_lt u hu
  finished_nodup := h.finished_nodup
  finished_met u hu := List.mem_cons_of_mem v (h.finished_met u hu)
  loopless u hu := by
    rcases List.mem_cons.mp hu with rfl | hu
    · exact hloop
    · exact h.loopless u hu

/-- The state in which `v` was just finished. It was met, and it is finished once. -/
theorem Sound.finish {s : Search} (h : Sound edges count s) {v : Vertex} (hmet : v ∈ s.met)
    (hopen : v ∉ s.finished) : Sound edges count { s with finished := v :: s.finished } where
  met_nodup := h.met_nodup
  met_lt := h.met_lt
  finished_nodup := List.nodup_cons.mpr ⟨hopen, h.finished_nodup⟩
  finished_met u hu := by
    rcases List.mem_cons.mp hu with rfl | hu
    · exact hmet
    · exact h.finished_met u hu
  loopless := h.loopless

/-- What happened between meeting and finishing `v` did not finish it: only vertices that were met
then were finished, and `v` had been met before. -/
theorem Extends.notMem_finished {s t : Search} {v : Vertex} (hs : Sound edges count s)
    (hnew : v ∉ s.met) (hst : Extends { s with met := v :: s.met } t) : v ∉ t.finished := by
  intro hfin
  rcases hst.finished v hfin with hold | hold
  · exact hnew (hs.finished_met v hold)
  · exact hold List.mem_cons_self

/-- Meeting `v`, searching on and finishing `v` leaves as many open as there were. In between it
is one more. -/
theorem Extends.finish {s t : Search} {v : Vertex} (hnew : v ∉ s.met)
    (hst : Extends { s with met := v :: s.met } t) :
    Extends s { t with finished := v :: t.finished } where
  met u hu := hst.met u (List.mem_cons_of_mem v hu)
  finished u hu := by
    rcases List.mem_cons.mp hu with rfl | hu
    · exact Or.inr hnew
    · exact (hst.finished u hu).imp_right fun hold hmem => hold (List.mem_cons_of_mem v hmem)
  opened := by
    -- `v` counts once among the met ones and once among the finished ones.
    have hlen := hst.opened
    simp only [List.length_cons] at hlen ⊢
    omega

end Search

/-- What a search from `v` with some fuel has to achieve. This is the statement for the induction
on the fuel, for all vertices and all states at once. -/
def VisitMeets (edges : Edges) (count fuel : Nat) (v : Vertex) : Prop :=
  ∀ s t : Search, s.Sound edges count → s.Fuelled count fuel → visit edges fuel v s = .ok t →
    t.Sound edges count ∧ s.Extends t ∧ v ∈ t.met

/-- Searches from several vertices one after another. The fuel is the same for each of them, as
none leaves a vertex open. -/
theorem foldlM_visit {fuel : Nat} {vs : List Vertex}
    (hvs : ∀ v ∈ vs, VisitMeets edges count fuel v) {s t : Search} (hs : s.Sound edges count)
    (hfuel : s.Fuelled count fuel)
    (h : vs.foldlM (fun s v => visit edges fuel v s) s = .ok t) :
    t.Sound edges count ∧ s.Extends t ∧ ∀ v ∈ vs, v ∈ t.met := by
  induction vs generalizing s with
  | nil =>
      cases h
      exact ⟨hs, Search.Extends.refl _, by simp⟩
  | cons v vs ih =>
      obtain ⟨m, hvisit, hrest⟩ := Except.foldlM_cons_eq_ok.mp h
      obtain ⟨hm, hsm, hvm⟩ := hvs v List.mem_cons_self s m hs hfuel hvisit
      obtain ⟨ht, hmt, hmem⟩ :=
        ih (fun u hu => hvs u (List.mem_cons_of_mem v hu)) hm (hfuel.of_extends hsm) hrest
      refine ⟨ht, hsm.trans hmt, fun u hu => ?_⟩
      -- What an early search met is still met after the later ones.
      rcases List.mem_cons.mp hu with rfl | hu
      · exact hmt.met u hvm
      · exact hmem u hu

/-- What a search from `v` does: nothing, when `v` was met before. Otherwise `v` has no edge to
itself, and the search meets it, goes on from what edges lead to and finishes it. -/
theorem visit_eq_ok {fuel : Nat} {v : Vertex} {s t : Search}
    (h : visit edges (fuel + 1) v s = .ok t) :
    v ∈ s.met ∧ t = s ∨
      v ∉ s.met ∧ (v, v) ∉ edges ∧
        ∃ m : Search, (successors edges v).reverse.foldlM (fun s w => visit edges fuel w s)
          { s with met := v :: s.met } = .ok m ∧ t = { m with finished := v :: m.finished } := by
  unfold visit at h
  split at h
  · next hmet =>
      cases h
      exact Or.inl ⟨hmet, rfl⟩
  · next hnew =>
      split at h
      · cases h
      · next hloop =>
          obtain ⟨m, hfold, hfinish⟩ := Except.bind_eq_ok_iff.mp h
          cases hfinish
          exact Or.inr ⟨hnew, mt mem_successors.mpr hloop, m, hfold, rfl⟩

/-- The search from a vertex meets it. The induction is on the fuel, and more
vertices are open with each level, so that fuel is left whenever it is needed. -/
theorem visit_meets (htargets : ∀ e ∈ edges, e.2 < count) (fuel : Nat) {v : Vertex}
    (hv : v < count) : VisitMeets edges count fuel v := by
  induction fuel generalizing v with
  | zero => exact fun s t hs hfuel _ => absurd hfuel hs.not_fuelled_zero
  | succ fuel ih =>
      intro s t hs hfuel h
      rcases visit_eq_ok h with ⟨hmet, rfl⟩ | ⟨hnew, hloop, m, hfold, rfl⟩
      · exact ⟨hs, Search.Extends.refl _, hmet⟩
      · have hsucc : ∀ w ∈ (successors edges v).reverse, VisitMeets edges count fuel w := by
          intro w hw
          rw [List.mem_reverse, mem_successors] at hw
          exact ih (htargets _ hw)
        obtain ⟨hm, hsm, -⟩ := foldlM_visit hsucc (hs.meet hv hnew hloop) (hfuel.meet v) hfold
        have hvm : v ∈ m.met := hsm.met v List.mem_cons_self
        have hopen : v ∉ m.finished := hsm.notMem_finished hs hnew
        exact ⟨hm.finish hvm hopen, hsm.finish hnew, hvm⟩

/-- The order of finishing is that of a search over all vertices below the bound, the last one
first. -/
theorem finishOrder_eq_ok {order : List Vertex} (h : finishOrder edges count = .ok order) :
    ∃ s : Search, (List.range count).foldlM (fun s v => visit edges (count + 1) v s) {} = .ok s ∧
      s.finished = order := by
  obtain ⟨s, hfold, hfinished⟩ := Except.bind_eq_ok_iff.mp h
  exact ⟨s, hfold, Except.ok.inj hfinished⟩

/-- The search over all vertices below the bound lists each of them once, and none
of them has an edge to itself. -/
theorem finishOrder_ok (htargets : ∀ e ∈ edges, e.2 < count) {order : List Vertex}
    (h : finishOrder edges count = .ok order) :
    order.Nodup ∧ (∀ v, v ∈ order ↔ v < count) ∧ ∀ v < count, (v, v) ∉ edges := by
  obtain ⟨s, hfold, rfl⟩ := finishOrder_eq_ok h
  obtain ⟨hs, hext, hmem⟩ := foldlM_visit
    (fun v hv => visit_meets htargets (count + 1) (List.mem_range.mp hv))
    Search.sound_empty Search.fuelled_empty hfold
  -- Nothing is open at the end, so what was met is what was finished.
  have hlen : s.met.length = s.finished.length := by simpa using hext.opened
  have hperm : s.finished.Perm s.met :=
    (List.subperm_of_subset hs.finished_nodup hs.finished_met).perm_of_length_le
      (Nat.le_of_eq hlen)
  have hall : ∀ v, v < count → v ∈ s.met := fun v hv => hmem v (List.mem_range.mpr hv)
  refine ⟨hs.finished_nodup, fun v => ?_, fun v hv => hs.loopless v (hall v hv)⟩
  rw [hperm.mem_iff]
  exact ⟨hs.met_lt v, hall v⟩

/-! ### The check of the order -/

/-- An order of all vertices below the bound in which every edge leads forward. Nothing else is
needed of an order, and there may be several. -/
structure Ordered (edges : Edges) (count : Nat) (order : List Vertex) : Prop where
  nodup : order.Nodup
  mem_iff : ∀ v, v ∈ order ↔ v < count
  idxOf_lt : ∀ u v, Edge edges u v → order.idxOf u < order.idxOf v

/-- When no back edge is found, the predecessors of a vertex of the order are the
vertex itself or come before it. -/
theorem mem_of_backEdge?_eq_none {earlier order : List Vertex}
    (h : backEdge? edges earlier order = none) {before after : List Vertex} {v : Vertex}
    (hsplit : order = before ++ v :: after) {u : Vertex} (huv : (u, v) ∈ edges) :
    u = v ∨ u ∈ earlier ∨ u ∈ before := by
  induction before generalizing earlier order with
  | nil =>
      subst hsplit
      simp only [List.nil_append, backEdge?] at h
      split at h
      · cases h
      -- The vertex is checked here: its predecessors are among the earlier ones, or it is one
      -- itself.
      · next hnone =>
          rw [List.getLast?_eq_none_iff, List.filter_eq_nil_iff] at hnone
          have hu := hnone u (mem_predecessors.mpr huv)
          rw [decide_eq_true_iff, Decidable.not_not, List.mem_cons] at hu
          exact hu.imp_right Or.inl
  | cons x before ih =>
      subst hsplit
      simp only [List.cons_append, backEdge?] at h
      split at h
      · cases h
      -- Further on in the order, what was checked so far counts as earlier.
      · rcases ih h rfl with huv | hu | hu
        · exact Or.inl huv
        · rcases List.mem_cons.mp hu with rfl | hu
          · exact Or.inr (Or.inr List.mem_cons_self)
          · exact Or.inr (Or.inl hu)
        · exact Or.inr (Or.inr (List.mem_cons_of_mem x hu))

/-- A sorted order is complete, and every edge leads forward in it. The first is a matter of the
search, and the second was checked after it. -/
theorem sort_ordered (htargets : ∀ e ∈ edges, e.2 < count) {order : List Vertex}
    (h : sort edges count = .ok order) : Ordered edges count order := by
  obtain ⟨found, hfinish, hcheck⟩ := Except.bind_eq_ok_iff.mp h
  split at hcheck
  · -- A back edge was found, and the sort failed.
    cases hcheck
  · next hback =>
      cases hcheck
      obtain ⟨hnodup, hmem, hloop⟩ := finishOrder_ok htargets hfinish
      refine ⟨hnodup, hmem, fun u v huv => ?_⟩
      have hv : v < count := htargets _ huv
      obtain ⟨before, after, rfl⟩ := List.append_of_mem ((hmem v).mpr hv)
      have hbefore : u ∈ before := by
        rcases mem_of_backEdge?_eq_none hback rfl huv with rfl | hu | hu
        · exact absurd huv (hloop u hv)
        · exact absurd hu List.not_mem_nil
        · exact hu
      have hvnew : v ∉ before := fun hvb =>
        (List.disjoint_of_nodup_append hnodup) hvb List.mem_cons_self
      -- `u` lies within the first part, and `v` is the vertex behind it.
      rw [List.idxOf_append_of_mem hbefore, List.idxOf_append_of_notMem hvnew,
        List.idxOf_cons_self, Nat.add_zero]
      exact List.idxOf_lt_length_iff.mpr hbefore

namespace Ordered

variable {order : List Vertex}

/-- Every path leads forward in the order, by induction on the path. -/
theorem idxOf_lt_of_transGen (h : Ordered edges count order) {u v : Vertex}
    (huv : Relation.TransGen (Edge edges) u v) : order.idxOf u < order.idxOf v := by
  induction huv with
  | single he => exact h.idxOf_lt _ _ he
  | tail _ he ih => exact Nat.lt_trans ih (h.idxOf_lt _ _ he)

/-- No path leads from a vertex to itself, as it would have to lead forward. -/
theorem irrefl (h : Ordered edges count order) (v : Vertex) :
    ¬ Relation.TransGen (Edge edges) v v :=
  fun hv => Nat.lt_irrefl _ (h.idxOf_lt_of_transGen hv)

end Ordered

end Moorage.Digraph
