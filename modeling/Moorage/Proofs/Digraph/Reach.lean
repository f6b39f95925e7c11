import Moorage.Proofs.Digraph.Order

/-!
# `Moorage.Proofs.Digraph.Reach`: breadth-first search finds what paths lead to

`Digraph.reachable` keeps the vertices that it knows in one list, of which the queue
is the end. Each step takes one vertex off the queue, so the vertices that were
dealt with are as many as the steps, and the fuel suffices because no vertex is
known twice.

What is known is what paths lead to from the start, at every step: a vertex is added because an edge
leads to it from one that is known. That in the end all of them are known is because nothing is left
on the queue, and then everything that edges lead to is known as well. The start is on the list
itself, by a path without edges.

* `mem_reachable`: a vertex is listed exactly if a path, perhaps an empty one, leads
  to it.
* `nodup_reachable`: no vertex is listed twice.
* `cycleTarget_onCycle`: the edge that is looked for at a vertex on a cycle lies on a cycle.
-/

set_option autoImplicit false

namespace Moorage.Digraph

variable {next : Vertex → List Vertex} {count : Nat}

/-- A step of the search: the second vertex is listed as next to the first. The search works for
any such listing, with the edges or against them. -/
def Next (next : Vertex → List Vertex) (u v : Vertex) : Prop := v ∈ next u

/-- What holds of a search from `start` at any time: the known vertices are those
dealt with and then the queue, each is known once and reached from `start`, and the
neighbours of those dealt with are known. -/
structure Known (next : Vertex → List Vertex) (count : Nat) (start : Vertex)
    (dealt queue : List Vertex) : Prop where
  nodup : (dealt ++ queue).Nodup
  lt : ∀ v ∈ dealt ++ queue, v < count
  start_mem : start ∈ dealt ++ queue
  reached : ∀ v ∈ dealt ++ queue, Relation.ReflTransGen (Next next) start v
  closed : ∀ v ∈ dealt, ∀ w ∈ next v, w ∈ dealt ++ queue

/-- One step of the search: the first vertex of the queue is dealt with, and those of
its neighbours that are not known yet join the queue. -/
theorem Known.step (hnodup : ∀ v, (next v).Nodup) (hlt : ∀ v, ∀ w ∈ next v, w < count)
    {start v : Vertex} {dealt queue : List Vertex}
    (h : Known next count start dealt (v :: queue)) :
    Known next count start (dealt ++ [v])
      (queue ++ (next v).filter fun w => w ∉ dealt ++ v :: queue) := by
  have hv : v ∈ dealt ++ v :: queue := List.mem_append_right dealt List.mem_cons_self
  -- The known vertices afterwards are those before and then the fresh ones.
  have hknown : dealt ++ [v] ++ (queue ++ (next v).filter fun w => w ∉ dealt ++ v :: queue)
      = (dealt ++ v :: queue) ++ (next v).filter fun w => w ∉ dealt ++ v :: queue := by
    simp only [List.append_assoc, List.cons_append, List.nil_append]
  have hfresh : ∀ w, w ∈ (next v).filter (fun w => w ∉ dealt ++ v :: queue) ↔
      w ∈ next v ∧ w ∉ dealt ++ v :: queue := by
    intro w
    rw [List.mem_filter, decide_eq_true_iff]
  constructor <;> rw [hknown]
  · -- A fresh vertex was not known before.
    refine List.nodup_append.mpr ⟨h.nodup, (hnodup v).filter _, fun a ha b hb hab => ?_⟩
    subst hab
    exact ((hfresh a).mp hb).2 ha
  · intro w hw
    rcases List.mem_append.mp hw with hw | hw
    · exact h.lt w hw
    · exact hlt v w ((hfresh w).mp hw).1
  · exact List.mem_append_left _ h.start_mem
  · intro w hw
    rcases List.mem_append.mp hw with hw | hw
    · exact h.reached w hw
    · exact (h.reached v hv).tail ((hfresh w).mp hw).1
  · intro u hu w hw
    by_cases hold : w ∈ dealt ++ v :: queue
    · exact List.mem_append_left _ hold
    · rcases List.mem_append.mp hu with hu | hu
      · exact List.mem_append_left _ (h.closed u hu w hw)
      · rw [List.mem_singleton] at hu
        subst hu
        exact List.mem_append_right _ ((hfresh w).mpr ⟨hw, hold⟩)

/-- A search that is given fuel for every vertex that is not dealt with yet ends with
all of them dealt with. -/
theorem known_breadthFirst (hnodup : ∀ v, (next v).Nodup)
    (hlt : ∀ v, ∀ w ∈ next v, w < count) {start : Vertex} {fuel : Nat}
    {dealt queue : List Vertex} (h : Known next count start dealt queue)
    (hfuel : count < fuel + dealt.length) :
    Known next count start (breadthFirst next fuel queue (dealt ++ queue)) [] := by
  induction fuel generalizing dealt queue with
  | zero =>
      -- More vertices would be dealt with than there are below the bound.
      have hdealt := length_le_of_lt (List.nodup_append.mp h.nodup).1
        fun v hv => h.lt v (List.mem_append_left queue hv)
      omega
  | succ fuel ih =>
      cases queue with
      | nil => simpa only [breadthFirst, List.append_nil] using h
      | cons v queue =>
          have hstep := h.step hnodup hlt
          have hfuel' : count < fuel + (dealt ++ [v]).length := by
            rw [List.length_append, List.length_singleton]
            omega
          have hend := ih hstep hfuel'
          simpa only [breadthFirst, List.append_assoc, List.cons_append, List.nil_append]
            using hend

/-- The search from a vertex below the bound ends with every known vertex dealt
with. -/
theorem known_reachable (hnodup : ∀ v, (next v).Nodup)
    (hlt : ∀ v, ∀ w ∈ next v, w < count) {start : Vertex} (hstart : start < count) :
    Known next count start (reachable next count start) [] := by
  have hbegin : Known next count start [] [start] := by
    constructor
    · simp
    · simpa using hstart
    · simp
    · intro v hv
      rw [List.nil_append, List.mem_singleton] at hv
      subst hv
      exact .refl
    · simp
  have hfuel : count < count + 1 + ([] : List Vertex).length := by simp
  have hend := known_breadthFirst hnodup hlt hbegin hfuel
  rwa [List.nil_append] at hend

/-- A vertex is found exactly if a path leads to it. The listing repeats nothing and stays below
the bound, which is what the fuel is sized for. -/
theorem mem_reachable (hnodup : ∀ v, (next v).Nodup) (hlt : ∀ v, ∀ w ∈ next v, w < count)
    {start : Vertex} (hstart : start < count) {v : Vertex} :
    v ∈ reachable next count start ↔ Relation.ReflTransGen (Next next) start v := by
  have hend := known_reachable hnodup hlt hstart
  have hall := hend.reached
  have hclosed := hend.closed
  have hmem := hend.start_mem
  rw [List.append_nil] at hall hclosed hmem
  refine ⟨hall v, fun hpath => ?_⟩
  induction hpath with
  | refl => exact hmem
  | tail _ hstep ih => exact hclosed _ ih _ hstep

/-- No vertex is found twice: one that is known already is not put on the queue again. -/
theorem nodup_reachable (hnodup : ∀ v, (next v).Nodup) (hlt : ∀ v, ∀ w ∈ next v, w < count)
    {start : Vertex} (hstart : start < count) : (reachable next count start).Nodup := by
  have hend := (known_reachable hnodup hlt hstart).nodup
  rwa [List.append_nil] at hend

/-! ### Edges on cycles -/

/-- The successors of a vertex are what edges lead to from it. -/
theorem next_successors {edges : Edges} : Next (successors edges) = Edge edges := by
  funext u v
  exact propext mem_successors

/-- The predecessors of a vertex are what edges lead to it from. -/
theorem next_predecessors {edges : Edges} :
    Next (predecessors edges) = Function.swap (Edge edges) := by
  funext u v
  exact propext mem_predecessors

/-- From a vertex on a cycle an edge leads to the vertex that `cycleTarget` finds, and a path
leads back from there. -/
theorem cycleTarget_onCycle {edges : Edges} (hnodup : edges.Nodup)
    (htargets : ∀ e ∈ edges, e.2 < count) {v : Vertex}
    (hv : Relation.TransGen (Edge edges) v v) :
    Edge edges v (cycleTarget edges count v) ∧
      Relation.ReflTransGen (Edge edges) (cycleTarget edges count v) v := by
  have hlt : ∀ u, ∀ w ∈ successors edges u, w < count :=
    fun u w hw => htargets _ (mem_successors.mp hw)
  have hreach : ∀ w ∈ successors edges v, v ∈ reachable (successors edges) count w ↔
      Relation.ReflTransGen (Edge edges) w v := by
    intro w hw
    rw [mem_reachable (nodup_successors hnodup) hlt (hlt v w hw), next_successors]
  -- The cycle through `v` leaves it by some edge, so the search does not fall back on `v`.
  obtain ⟨x, hvx, hxv⟩ := Relation.TransGen.head'_iff.mp hv
  have hx : x ∈ successors edges v := mem_successors.mpr hvx
  unfold cycleTarget
  cases hfind : (successors edges v).find? fun w => v ∈ reachable (successors edges) count w with
  | none =>
      have hnot := List.find?_eq_none.mp hfind x hx
      rw [decide_eq_true_iff] at hnot
      exact absurd ((hreach x hx).mpr hxv) hnot
  | some w =>
      have hw := List.mem_of_find?_eq_some hfind
      have hback := List.find?_some hfind
      rw [decide_eq_true_iff] at hback
      exact ⟨mem_successors.mp hw, (hreach w hw).mp hback⟩

end Moorage.Digraph
