import Moorage.Proofs.Digraph.Order

/-!
# `Moorage.Proofs.Digraph.Acyclic`: a sort fails at cycles only

`sort_ordered` says that a sorted order respects every edge. The other half is that a sort
does not fail without a reason: the vertex that it names lies on a cycle. This is an
argument about the times at which a depth-first search finishes the vertices.

The vertices that are open, met but not finished, all lead to the vertex that the search has
come to. So by the time a vertex is finished, everything that edges lead to from it is
finished already, or it is open and leads back. The finished vertices, the last first,
therefore run `Downward` but for cycles, and an edge that the check of the order objects to
closes one.

* `visit_settles`: the search from one vertex.
* `transGen_of_sort_eq_error`: the vertex at which a sort fails lies on a cycle.
* `sort_eq_ok_iff`: sorting succeeds exactly on graphs without cycles.
-/

set_option autoImplicit false

namespace Moorage.Digraph

open Relation (TransGen)

variable {edges : Edges} {count : Nat}

/-- No path leads from a vertex to itself. An edge from a vertex to itself is such a path. -/
def Acyclic (edges : Edges) : Prop := ∀ v, ¬ TransGen (Edge edges) v v

/-- Every vertex of the list stands before everything that edges lead to from it, or paths
lead back to it from there. -/
def Downward (edges : Edges) : List Vertex → Prop
  | [] => True
  | v :: rest =>
      (∀ w, Edge edges v w → w ∈ rest ∨ TransGen (Edge edges) w v) ∧ Downward edges rest

/-- What edges lead to from a vertex of the list stands behind that vertex or leads back to
it. -/
theorem Downward.mem_after {before after : List Vertex} {v w : Vertex}
    (h : Downward edges (before ++ v :: after)) (hvw : Edge edges v w) :
    w ∈ after ∨ TransGen (Edge edges) w v := by
  induction before with
  | nil => exact h.1 w hvw
  | cons _ before ih => exact ih h.2

/-! ### What a search settles -/

namespace Search

/-- The vertex was met and is not finished. The open vertices are those on the path to where the
search is. -/
def Open (s : Search) (v : Vertex) : Prop := v ∈ s.met ∧ v ∉ s.finished

/-- What a part of the search does that leads from one state to another: the finished
vertices run downward, those that were finished stay so, and none is left open that was
not. -/
structure Settles (edges : Edges) (s t : Search) : Prop where
  downward : Downward edges t.finished
  finished : ∀ v ∈ s.finished, v ∈ t.finished
  opened : ∀ v, t.Open v → s.Open v

/-- A part of the search in which nothing is done settles nothing. -/
theorem Settles.refl {s : Search} (h : Downward edges s.finished) : s.Settles edges s :=
  ⟨h, fun _ hv => hv, fun _ hv => hv⟩

/-- Two parts of the search one after the other settle what each of them does. -/
theorem Settles.trans {s t u : Search} (hst : s.Settles edges t) (htu : t.Settles edges u) :
    s.Settles edges u :=
  ⟨htu.downward, fun v hv => htu.finished v (hst.finished v hv),
    fun v hv => hst.opened v (htu.opened v hv)⟩

/-- Meeting `v` opens it and nothing else. -/
theorem open_meet {s : Search} {v u : Vertex}
    (hu : Open { s with met := v :: s.met } u) : u = v ∨ s.Open u :=
  (List.mem_cons.mp hu.1).imp_right fun hmet => ⟨hmet, hu.2⟩

/-- Meeting `v`, settling everything that edges lead to from it and finishing `v` settles
`v` too. -/
theorem Settles.finish {s t : Search} {v : Vertex}
    (hst : Settles edges { s with met := v :: s.met } t)
    (hsucc : ∀ w, Edge edges v w → w ∈ t.finished ∨ TransGen (Edge edges) w v) :
    s.Settles edges { t with finished := v :: t.finished } where
  downward := ⟨hsucc, hst.downward⟩
  finished u hu := List.mem_cons_of_mem v (hst.finished u hu)
  opened u hu := by
    obtain ⟨hne, hopen⟩ := not_or.mp (mt List.mem_cons.mpr hu.2)
    exact (open_meet (hst.opened u ⟨hu.1, hopen⟩)).resolve_left hne

end Search

/-- What a search from `v` with some fuel has to achieve, when all open vertices lead
to `v`: it finishes `v`, unless `v` was open itself. -/
def VisitSettles (edges : Edges) (count fuel : Nat) (v : Vertex) : Prop :=
  ∀ s t : Search, s.Sound edges count → s.Fuelled count fuel → Downward edges s.finished →
    (∀ u, s.Open u → TransGen (Edge edges) u v) → visit edges fuel v s = .ok t →
    s.Settles edges t ∧ (v ∈ t.finished ∨ s.Open v)

/-- Searches from several vertices one after another. Each begins with the same open vertices, all
of which lead to it. -/
theorem foldlM_settles (htargets : ∀ e ∈ edges, e.2 < count) {fuel : Nat} {vs : List Vertex}
    (hlt : ∀ v ∈ vs, v < count) (hvs : ∀ v ∈ vs, VisitSettles edges count fuel v) {s t : Search}
    (hs : s.Sound edges count) (hfuel : s.Fuelled count fuel)
    (hdown : Downward edges s.finished)
    (hlead : ∀ v ∈ vs, ∀ u, s.Open u → TransGen (Edge edges) u v)
    (h : vs.foldlM (fun s v => visit edges fuel v s) s = .ok t) :
    s.Settles edges t ∧ ∀ v ∈ vs, v ∈ t.finished ∨ s.Open v := by
  induction vs generalizing s with
  | nil =>
      cases h
      exact ⟨.refl hdown, by simp⟩
  | cons v vs ih =>
      obtain ⟨m, hvisit, hrest⟩ := Except.foldlM_cons_eq_ok.mp h
      obtain ⟨hsm, hvm⟩ :=
        hvs v List.mem_cons_self s m hs hfuel hdown (hlead v List.mem_cons_self) hvisit
      obtain ⟨hm, hext, -⟩ :=
        visit_meets htargets fuel (hlt v List.mem_cons_self) s m hs hfuel hvisit
      -- Nothing was left open, so what is open still leads to the others.
      obtain ⟨hmt, hmem⟩ := ih (fun u hu => hlt u (List.mem_cons_of_mem v hu))
        (fun u hu => hvs u (List.mem_cons_of_mem v hu)) hm (hfuel.of_extends hext) hsm.downward
        (fun u hu x hx => hlead u (List.mem_cons_of_mem v hu) x (hsm.opened x hx)) hrest
      refine ⟨hsm.trans hmt, List.forall_mem_cons.mpr ⟨?_, fun u hu => ?_⟩⟩
      · exact hvm.imp_left (hmt.finished v)
      · exact (hmem u hu).imp_right (hsm.opened u)

/-- The search from a vertex settles it. The induction is on the fuel, of which enough is
left at every level. -/
theorem visit_settles (htargets : ∀ e ∈ edges, e.2 < count) (fuel : Nat) {v : Vertex}
    (hv : v < count) : VisitSettles edges count fuel v := by
  induction fuel generalizing v with
  | zero => exact fun s t hs hfuel _ _ _ => absurd hfuel hs.not_fuelled_zero
  | succ fuel ih =>
      intro s t hs hfuel hdown hlead h
      rcases visit_eq_ok h with ⟨hmet, rfl⟩ | ⟨hnew, hloop, m, hfold, rfl⟩
      · refine ⟨.refl hdown, ?_⟩
        by_cases hfin : v ∈ t.finished
        · exact Or.inl hfin
        · exact Or.inr ⟨hmet, hfin⟩
      · have hsucc : ∀ {w}, w ∈ (successors edges v).reverse → Edge edges v w :=
          fun hw => mem_successors.mp (List.mem_reverse.mp hw)
        have hlead' : ∀ w, Edge edges v w → ∀ u,
            Search.Open { s with met := v :: s.met } u → TransGen (Edge edges) u w := by
          -- What was open when `v` was met leads to `v`, and so on to `w`.
          intro w hw u hu
          rcases Search.open_meet hu with rfl | hu
          · exact .single hw
          · exact (hlead u hu).tail hw
        obtain ⟨hsm, hmem⟩ := foldlM_settles htargets
          (fun w hw => htargets _ (hsucc hw)) (fun w hw => ih (htargets _ (hsucc hw)))
          (hs.meet hv hnew hloop) (hfuel.meet v) hdown (fun w hw => hlead' w (hsucc hw)) hfold
        refine ⟨hsm.finish fun w hw => ?_, Or.inl List.mem_cons_self⟩
        refine (hmem w (List.mem_reverse.mpr (mem_successors.mpr hw))).imp_right fun hopen => ?_
        rcases Search.open_meet hopen with rfl | hopen
        · exact .single hw
        · exact hlead w hopen

/-- The order in which the search over all vertices below the bound finishes them, the last
first, runs downward. -/
theorem downward_finishOrder (htargets : ∀ e ∈ edges, e.2 < count) {order : List Vertex}
    (h : finishOrder edges count = .ok order) : Downward edges order := by
  obtain ⟨s, hfold, rfl⟩ := finishOrder_eq_ok h
  have hlt : ∀ v ∈ List.range count, v < count := fun v hv => List.mem_range.mp hv
  obtain ⟨hs, -⟩ := foldlM_settles htargets hlt
    (fun v hv => visit_settles htargets (count + 1) (hlt v hv)) Search.sound_empty
    Search.fuelled_empty trivial (fun v _ u hu => absurd hu.1 List.not_mem_nil) hfold
  exact hs.downward

/-! ### Where a sort fails -/

/-- A search fails at a vertex with an edge to itself. By induction on the fuel, since a failure
comes up through all levels unchanged. -/
theorem edge_of_visit_eq_error {fuel : Nat} {v x : Vertex} {s : Search}
    (h : visit edges fuel v s = .error x) : Edge edges x x := by
  induction fuel generalizing v s with
  | zero => cases h
  | succ fuel ih =>
      unfold visit at h
      split at h
      · cases h
      · split at h
        · next hloop =>
            cases h
            exact mem_successors.mp hloop
        · rcases Except.bind_eq_error_iff.mp h with hfold | ⟨m, -, hfinish⟩
          · obtain ⟨-, w, -, t, -, -, hw⟩ := Except.foldlM_eq_error hfold
            exact ih hw
          · cases hfinish

/-- A search fails at a vertex with an edge to itself only. -/
theorem edge_of_finishOrder_eq_error {x : Vertex} (h : finishOrder edges count = .error x) :
    Edge edges x x := by
  rcases Except.bind_eq_error_iff.mp h with hfold | ⟨s, -, hfinished⟩
  · obtain ⟨-, v, -, s, -, -, hv⟩ := Except.foldlM_eq_error hfold
    exact edge_of_visit_eq_error hv
  · cases hfinished

/-- The check of the order objects to an edge to a vertex from one that is neither that vertex
nor before it. -/
theorem exists_of_backEdge?_eq_some {earlier order : List Vertex} {u : Vertex}
    (h : backEdge? edges earlier order = some u) :
    ∃ before v after, order = before ++ v :: after ∧ Edge edges u v ∧ u ∉ before ∧ u ≠ v ∧
      u ∉ earlier := by
  induction order generalizing earlier with
  | nil => cases h
  | cons v rest ih =>
      unfold backEdge? at h
      split at h
      · next w hlast =>
          cases h
          obtain ⟨hmem, hnew⟩ := List.mem_filter.mp (List.mem_of_getLast? hlast)
          rw [decide_eq_true_iff, List.mem_cons, not_or] at hnew
          exact ⟨[], v, rest, rfl, mem_predecessors.mp hmem, List.not_mem_nil, hnew⟩
      · obtain ⟨before, x, after, rfl, hux, hbefore, hne, hearlier⟩ := ih h
        obtain ⟨huv, hearlier⟩ := not_or.mp (mt List.mem_cons.mpr hearlier)
        exact ⟨v :: before, x, after, rfl, hux,
          mt List.mem_cons.mp (not_or.mpr ⟨huv, hbefore⟩), hne, hearlier⟩

/-- The vertex at which a sort fails lies on a cycle. It has an edge to itself, or an edge leads
backward from it in the order, and closes a cycle. -/
theorem transGen_of_sort_eq_error (hsources : ∀ e ∈ edges, e.1 < count)
    (htargets : ∀ e ∈ edges, e.2 < count) {u : Vertex} (h : sort edges count = .error u) :
    TransGen (Edge edges) u u := by
  rcases Except.bind_eq_error_iff.mp h with hfinish | ⟨order, hfinish, hcheck⟩
  · exact .single (edge_of_finishOrder_eq_error hfinish)
  · split at hcheck
    · next w hback =>
        cases hcheck
        obtain ⟨before, v, after, rfl, huv, hbefore, hne, -⟩ := exists_of_backEdge?_eq_some hback
        obtain ⟨hnodup, hmem, -⟩ := finishOrder_ok htargets hfinish
        -- The order is complete, so `u` stands behind `v`, and runs downward from there.
        have hu : u ∈ before ++ v :: after := (hmem u).mpr (hsources _ huv)
        have hafter : u ∈ after := by simpa [hbefore, hne] using hu
        obtain ⟨between, rest, rfl⟩ := List.append_of_mem hafter
        have hdown : Downward edges ((before ++ v :: between) ++ u :: rest) := by
          simpa using downward_finishOrder htargets hfinish
        rcases hdown.mem_after huv with hrest | hback
        · have hv : v ∉ between ++ u :: rest :=
            (List.nodup_cons.mp (List.nodup_append.mp hnodup).2.1).1
          exact absurd (List.mem_append_right between (List.mem_cons_of_mem u hrest)) hv
        · exact hback.head huv
    · cases hcheck

/-- Sorting succeeds exactly on graphs without cycles. Its order respects all edges where there is
one, and it fails at a cycle only. -/
theorem sort_eq_ok_iff (hsources : ∀ e ∈ edges, e.1 < count)
    (htargets : ∀ e ∈ edges, e.2 < count) :
    (∃ order, sort edges count = .ok order) ↔ Acyclic edges := by
  constructor
  · rintro ⟨order, h⟩
    exact (sort_ordered htargets h).irrefl
  · intro hacyclic
    cases h : sort edges count with
    | error v => exact absurd (transGen_of_sort_eq_error hsources htargets h) (hacyclic v)
    | ok order => exact ⟨order, rfl⟩

end Moorage.Digraph
