import Moorage.Proofs.Walk.Awaits

/-!
# `Moorage.Proofs.Walk.Queue`: the counters and the queue of ready resources

A walk counts for each resource how many of those that it waits for have not finished,
and puts it on the queue when the count comes to zero. `Queue` says what this
achieves, for a list `done` of the resources that have finished and a list `gone` of
those that left the queue: the count is exact, and ready is exactly what has not left
the queue and waits for nothing but finished resources.

* `queue_begin`: it holds of a walk before its first move.
* `Queue.take`: it is kept when the first resource leaves the queue.
* `Queue.release`: it is kept when one more resource has finished. Each counter is
  lowered at most once for that resource, and none below zero.
-/

set_option autoImplicit false

namespace Moorage.Walk

variable {g : Graph} {kind : WalkKind}

/-! ### The counters -/

/-- Lowering the count of one reference leaves every other count alone. A count of zero stays
zero, which does not happen here as long as the counts are exact. -/
theorem countOf_lowered (label other : String) (waiting : List (String × Nat)) :
    countOf other (lowered label waiting)
      = if other = label then (countOf other waiting).map (· - 1)
        else countOf other waiting := by
  unfold countOf lowered
  induction waiting with
  | nil => simp
  | cons entry waiting ih =>
      by_cases hentry : entry.1 = other
      · by_cases hlabel : other = label
        · simp [hentry, hlabel]
        · simp [hentry, hlabel]
      · have hkeep : ¬ (if entry.1 = label then (entry.1, entry.2 - 1) else entry).1 = other := by
          split <;> exact hentry
        simpa [List.find?_cons, hentry, hkeep] using ih

/-- The count that a list of references with their counts gives to one of them. The texts have to
be different, as the first one counts. -/
theorem countOf_map {ps : List Nat} {f : Nat → Nat}
    (hinj : ∀ p ∈ ps, ∀ q ∈ ps, labelAt g p = labelAt g q → p = q) {p : Nat} (hp : p ∈ ps) :
    countOf (labelAt g p) (ps.map fun q => (labelAt g q, f q)) = some (f p) := by
  unfold countOf
  rw [List.find?_map, Option.map_map]
  have hfind : ps.find? ((fun entry => decide (entry.1 = labelAt g p)) ∘
      fun q => (labelAt g q, f q)) = some p := by
    cases hfound : ps.find? ((fun entry => decide (entry.1 = labelAt g p)) ∘
      fun q => (labelAt g q, f q)) with
    | none =>
        have habsent := List.find?_eq_none.mp hfound p hp
        simp at habsent
    | some q =>
        have hlabel : labelAt g q = labelAt g p := by simpa using List.find?_some hfound
        rw [hinj q (List.mem_of_find?_eq_some hfound) p hp hlabel]
  rw [hfind]
  rfl

/-- One more finished resource is one less to be counted, where it is waited for. It must not have
been counted as finished before. -/
theorem countP_notMem_concat {ps done : List Nat} (hnodup : ps.Nodup) {p : Nat}
    (hnew : p ∉ done) :
    ps.countP (· ∉ done)
      = ps.countP (· ∉ done ++ [p]) + if p ∈ ps then 1 else 0 := by
  induction ps with
  | nil => simp
  | cons q ps ih =>
      obtain ⟨hq, hps⟩ := List.nodup_cons.mp hnodup
      have hrest := ih hps
      rw [List.countP_cons, List.countP_cons, hrest]
      by_cases hqp : q = p
      · subst hqp
        simp [hnew, hq]
      · have hmem : (q ∈ done ++ [p]) ↔ q ∈ done := by simp [hqp]
        have hcons : (p ∈ q :: ps) ↔ p ∈ ps := by simp [Ne.symm hqp]
        simp only [hmem, hcons]
        omega

/-! ### Telling the neighbours -/

/-- Telling several resources that one has finished lowers the count of each once, and
puts those on the queue, in their order, that wait for nothing more. Nothing else of
the walk changes. -/
theorem foldl_releaseOne (h : g.Coherent) {ps : List Nat} (hlt : ∀ p ∈ ps, p < g.size)
    (hnodup : ps.Nodup) (w : Walk) :
    ∃ waiting,
      ps.foldl (releaseOne g) w
        = { w with
            waiting := waiting
            ready := w.ready ++ ps.filter fun q => countOf (labelAt g q) waiting = some 0 } ∧
      ∀ q < g.size, countOf (labelAt g q) waiting
        = if q ∈ ps then (countOf (labelAt g q) w.waiting).map (· - 1)
          else countOf (labelAt g q) w.waiting := by
  induction ps generalizing w with
  | nil => exact ⟨w.waiting, by simp, by simp⟩
  | cons p ps ih =>
      obtain ⟨hp, hps⟩ := List.nodup_cons.mp hnodup
      have hplt : p < g.size := hlt p List.mem_cons_self
      have hlt' : ∀ q ∈ ps, q < g.size := fun q hq => hlt q (List.mem_cons_of_mem p hq)
      -- Counters are kept by text, and no other resource has the text of `p`.
      have hother : ∀ q < g.size, countOf (labelAt g q) (lowered (labelAt g p) w.waiting)
          = if q = p then (countOf (labelAt g q) w.waiting).map (· - 1)
            else countOf (labelAt g q) w.waiting := by
        intro q hq
        rw [countOf_lowered]
        by_cases hqp : q = p
        · simp [hqp]
        · rw [if_neg hqp, if_neg fun hlabel => hqp (labelAt_injective h hq hplt hlabel)]
      obtain ⟨waiting, hfold, hcount⟩ := ih hlt' hps (releaseOne g w p)
      have hwaiting : (releaseOne g w p).waiting = lowered (labelAt g p) w.waiting := by
        unfold releaseOne
        dsimp only
        split <;> rfl
      rw [hwaiting] at hcount
      -- The rest of the list does not count `p` down again.
      have hpcount : countOf (labelAt g p) waiting
          = countOf (labelAt g p) (lowered (labelAt g p) w.waiting) := by
        rw [hcount p hplt, if_neg hp]
      refine ⟨waiting, ?_, fun q hq => ?_⟩
      · rw [List.foldl_cons, hfold, List.filter_cons, hpcount]
        unfold releaseOne
        dsimp only
        split
        · next hzero => simp [hzero]
        · next hzero => simp [hzero]
      · rw [hcount q hq, hother q hq]
        by_cases hqp : q = p
        · subst hqp
          simp [hp]
        · simp [hqp]

/-! ### Ready resources -/

/-- The queue and the counters are right for the resources that have finished and those
that left the queue. -/
structure Queue (g : Graph) (kind : WalkKind) (gone done : List Nat) (w : Walk) : Prop where
  nodup : w.ready.Nodup
  mem_ready : ∀ p, p ∈ w.ready ↔
    p < g.size ∧ p ∉ gone ∧ ∀ q, kind.Awaits g p q → q ∈ done
  count : ∀ p < g.size, countOf (labelAt g p) w.waiting
    = some ((Graph.positionsOf (kind.waitsOn g (labelAt g p))).countP (· ∉ done))

/-- Nothing is left to wait for exactly if everything that is waited for has
finished. -/
theorem countP_eq_zero (h : g.Coherent) {p : Nat} (hp : p < g.size) (done : List Nat) :
    (Graph.positionsOf (kind.waitsOn g (labelAt g p))).countP (· ∉ done) = 0 ↔
      ∀ q, kind.Awaits g p q → q ∈ done := by
  simp only [List.countP_eq_zero, mem_waitsOn h hp, decide_eq_true_eq, Decidable.not_not]

/-- Before the first move ready is what waits for nothing. The counts are those of all waits,
since nothing has finished. -/
theorem queue_begin (h : g.Coherent) (b : Board) : Queue g kind [] [] (begin g kind b) := by
  have hmem : ∀ p, p ∈ order g kind ↔ p < g.size := by
    intro p
    cases kind with
    | apply => exact h.mem_positions
    | destroy => exact List.mem_reverse.trans h.mem_positions
  have hnodup : (order g kind).Nodup := by
    cases kind with
    | apply => exact h.nodup_positions
    | destroy => exact List.nodup_reverse.mpr h.nodup_positions
  refine ⟨hnodup.filter _, fun p => ?_, fun p hp => ?_⟩
  · simp only [begin, List.mem_filter, hmem, List.not_mem_nil, not_false_eq_true, true_and]
    refine and_congr_right fun hp => ?_
    -- Nothing has to be waited for exactly if the list of waits is empty.
    have hzero : (kind.waitsOn g (labelAt g p)).isEmpty = true ↔
        (Graph.positionsOf (kind.waitsOn g (labelAt g p))).length = 0 := by
      rw [← length_waitsOn, List.isEmpty_iff_length_eq_zero]
    rw [hzero, List.length_eq_zero_iff, List.eq_nil_iff_forall_not_mem]
    exact forall_congr' fun q => not_congr (mem_waitsOn h hp)
  -- The counts are kept by reference text, and these tell resources apart.
  · have hinj : ∀ q ∈ order g kind, ∀ r ∈ order g kind, labelAt g q = labelAt g r → q = r :=
      fun q hq r hr => labelAt_injective h ((hmem q).mp hq) ((hmem r).mp hr)
    have hcount := countOf_map (f := fun p => (kind.waitsOn g (labelAt g p)).length) hinj
      ((hmem p).mpr hp)
    simp only [List.not_mem_nil, not_false_eq_true, decide_true, List.countP_true]
    rw [← length_waitsOn]
    exact hcount

namespace Queue

variable {gone done : List Nat} {w : Walk}

/-- The first ready resource leaves the queue. No count changes, as it has not finished by that. -/
theorem take (hw : Queue g kind gone done w) {p : Nat} {rest : List Nat}
    (hready : w.ready = p :: rest) :
    Queue g kind (gone ++ [p]) done { w with ready := rest } := by
  have hnodup := hw.nodup
  rw [hready, List.nodup_cons] at hnodup
  refine ⟨hnodup.2, fun q => ?_, hw.count⟩
  have hmem := hw.mem_ready q
  rw [hready, List.mem_cons] at hmem
  rw [List.mem_append, List.mem_singleton]
  constructor
  · intro hq
    obtain ⟨hlt, hgone, hdone⟩ := hmem.mp (Or.inr hq)
    exact ⟨hlt, fun hg => hg.elim hgone fun hqp => hnodup.1 (hqp ▸ hq), hdone⟩
  · rintro ⟨hlt, hgone, hdone⟩
    rcases hmem.mpr ⟨hlt, fun hg => hgone (Or.inl hg), hdone⟩ with hqp | hq
    · exact absurd (Or.inr hqp) hgone
    · exact hq

/-- Other parts of the walk do not matter. For moves that change statuses, tasks or failures
only. -/
theorem congr (hw : Queue g kind gone done w) {w' : Walk} (hready : w'.ready = w.ready)
    (hwaiting : w'.waiting = w.waiting) : Queue g kind gone done w' := by
  refine ⟨?_, ?_, ?_⟩
  · rw [hready]
    exact hw.nodup
  · rw [hready]
    exact hw.mem_ready
  · rw [hwaiting]
    exact hw.count

/-- One more resource has finished, and nothing that waits for it has left the queue
yet. -/
theorem release (h : g.Coherent) (hw : Queue g kind gone done w) (hkind : w.kind = kind)
    {p : Nat} (hp : p < g.size) (hnew : p ∉ done)
    (hgone : ∀ q, kind.Awaits g q p → q ∉ gone) :
    Queue g kind gone (done ++ [p]) (release g w p) := by
  have hreleases : ∀ q, q ∈ Graph.positionsOf (kind.releases g (labelAt g p)) ↔
      kind.Awaits g q p := fun q => mem_releases h hp
  obtain ⟨waiting, hfold, hlowered⟩ := foldl_releaseOne h
    (fun q hq => (lt_of_awaits h ((hreleases q).mp hq)).1) (nodup_releases h p) w
  have hrelease : Walk.release g w p
      = (Graph.positionsOf (kind.releases g (labelAt g p))).foldl (releaseOne g) w := by
    unfold Walk.release
    rw [hkind]
  -- Counting those that are not finished, `p` counts once before and not at all after.
  have hcount : ∀ q < g.size, countOf (labelAt g q) waiting
      = some ((Graph.positionsOf (kind.waitsOn g (labelAt g q))).countP (· ∉ done ++ [p])) := by
    intro q hq
    rw [hlowered q hq, hw.count q hq]
    have hnodup : (Graph.positionsOf (kind.waitsOn g (labelAt g q))).Nodup := nodup_waitsOn h q
    have hsplit := countP_notMem_concat hnodup hnew
    by_cases hqp : kind.Awaits g q p
    · rw [if_pos ((hreleases q).mpr hqp)]
      rw [if_pos ((mem_waitsOn h hq).mpr hqp)] at hsplit
      simp only [Option.map_some, hsplit, Nat.add_sub_cancel]
    · rw [if_neg fun hmem => hqp ((hreleases q).mp hmem)]
      rw [if_neg fun hmem => hqp ((mem_waitsOn h hq).mp hmem)] at hsplit
      rw [hsplit, Nat.add_zero]
  have hfresh : ∀ q, q ∈ (Graph.positionsOf (kind.releases g (labelAt g p))).filter
      (fun q => countOf (labelAt g q) waiting = some 0) ↔
        kind.Awaits g q p ∧ ∀ r, kind.Awaits g q r → r ∈ done ++ [p] := by
    intro q
    rw [List.mem_filter, hreleases]
    refine and_congr_right fun hqp => ?_
    have hq := (lt_of_awaits h hqp).1
    rw [hcount q hq, decide_eq_true_iff, Option.some.injEq, countP_eq_zero h hq]
  rw [hrelease, hfold]
  refine ⟨?_, fun q => ?_, hcount⟩
  · -- What was ready before did not wait for `p`, and what is fresh did.
    refine List.nodup_append.mpr ⟨hw.nodup, (nodup_releases h p).filter _, ?_⟩
    rintro q hq _ hq' rfl
    exact hnew (((hw.mem_ready q).mp hq).2.2 p ((hfresh q).mp hq').1)
  · rw [List.mem_append, hw.mem_ready, hfresh]
    constructor
    · rintro (⟨hq, hqgone, hqdone⟩ | ⟨hqp, hqdone⟩)
      · exact ⟨hq, hqgone, fun r hr => List.mem_append_left _ (hqdone r hr)⟩
      · exact ⟨(lt_of_awaits h hqp).1, hgone q hqp, hqdone⟩
    · rintro ⟨hq, hqgone, hqdone⟩
      by_cases hqp : kind.Awaits g q p
      · exact Or.inr ⟨hqp, hqdone⟩
      · refine Or.inl ⟨hq, hqgone, fun r hr => ?_⟩
        rcases List.mem_append.mp (hqdone r hr) with hr' | hr'
        · exact hr'
        · rw [List.mem_singleton] at hr'
          exact absurd (hr' ▸ hr) hqp

end Queue

end Moorage.Walk
