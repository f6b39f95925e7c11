import Moorage.Proofs.Board
import Moorage.Proofs.Walk.Awaits

/-!
# `Moorage.Proofs.Walk.Block`: what a failure does to the others

A failure blocks everything that waits for the resource, directly or not. Those that
were blocked before are left alone, so that each is reported once. `block_effect` is
the one statement about `Walk.block`: which resources are newly blocked, which of them
fail with it, and that nothing else of the walk changes.

A blocked reference need not fail. While applying, those that are not disabled do, with a failure
that names what they waited for; while destroying none does, since what is blocked then is simply
kept. `FailsWith` is that difference. The function goes through the listing of the graph one
reference at a time, and the statement is by induction on that list.
-/

set_option autoImplicit false

namespace Moorage.Walk

open Relation (TransGen)

variable {g : Graph}

/-- Blocking the resource at a position makes it fail: resources are being applied, and
it is not disabled. -/
def FailsWith (w : Walk) (position : Nat) : Prop :=
  w.kind = .apply ∧ w.board.status position ≠ .disabled

instance (w : Walk) (position : Nat) : Decidable (FailsWith w position) :=
  inferInstanceAs (Decidable (_ ∧ _))

/-- The entry of a resource that fails because another did. It names both of them. -/
def dependentFailure (g : Graph) (cause : String) (position : Nat) : String × Error :=
  (labelAt g position, .dependencyFailed (labelAt g position) cause)

/-- What becomes of a walk when the resources of a list are newly blocked. Their references are
added, those that fail with it get the status and an entry each, and everything else stays. -/
structure Blocked (g : Graph) (cause : String) (fresh : List Nat) (w w' : Walk) : Prop where
  kind : w'.kind = w.kind
  waiting : w'.waiting = w.waiting
  ready : w'.ready = w.ready
  running : w'.running = w.running
  blocked : w'.blocked = w.blocked ++ fresh.map (labelAt g)
  length : w'.board.standings.length = w.board.standings.length
  status : ∀ q, w'.board.status q
    = if q ∈ fresh ∧ FailsWith w q then .failed else w.board.status q
  failures : w'.failures
    = w.failures ++ (fresh.filter fun q => FailsWith w q).map (dependentFailure g cause)

/-- Blocking one resource that is blocked already changes nothing, so that it is reported once
however many failures are in front of it. -/
theorem blockOne_of_mem {cause : String} {w : Walk} {p : Nat} (hp : labelAt g p ∈ w.blocked) :
    blockOne g cause w p = w := by
  simp [blockOne, hp]

/-- Blocking one resource that was not blocked. It has to be a position of the board, where its
status may be written. -/
theorem blocked_blockOne {cause : String} {w : Walk} {p : Nat}
    (hlength : p < w.board.standings.length) (hp : labelAt g p ∉ w.blocked) :
    Blocked g cause [p] w (blockOne g cause w p) := by
  unfold blockOne
  simp only [hp, if_false]
  cases hkind : w.kind with
  -- Walks that destroy block without a failure, so the statuses and the list stay.
  | destroy =>
      have hfails : ∀ q, ¬ FailsWith w q := fun q hq => by
        have hcontra := hkind.symm.trans hq.1
        cases hcontra
      exact ⟨hkind.symm, rfl, rfl, rfl, rfl, rfl, by simp [hfails], by simp [hfails]⟩
  | apply =>
      by_cases hdisabled : w.board.status p = .disabled
      -- A disabled resource is blocked and does not fail.
      · have hfails : ¬ FailsWith w p := fun hp => hp.2 hdisabled
        simp only [hdisabled, if_true]
        refine ⟨hkind.symm, rfl, rfl, rfl, rfl, rfl, fun q => ?_, by simp [hfails]⟩
        rw [if_neg]
        rintro ⟨hq, hqfails⟩
        rw [List.mem_singleton] at hq
        exact hfails (hq ▸ hqfails)
      · have hfails : FailsWith w p := ⟨hkind, hdisabled⟩
        simp only [hdisabled, if_false]
        refine ⟨hkind.symm, rfl, rfl, rfl, rfl, by simp, fun q => ?_, ?_⟩
        · rw [Board.status_setStatus hlength]
          by_cases hqp : q = p
          · subst hqp
            simp [hfails]
          · simp [hqp]
        · simp [hfails, dependentFailure]

/-- Blocking resources one after another. The two lists have nothing in common, and so the
statuses of the first are kept by the second. -/
theorem Blocked.trans {cause : String} {fresh more : List Nat} {w w' w'' : Walk}
    (h : Blocked g cause fresh w w') (h' : Blocked g cause more w' w'')
    (hdisjoint : ∀ q ∈ more, q ∉ fresh) : Blocked g cause (fresh ++ more) w w'' := by
  have hfails : ∀ q ∈ more, (FailsWith w' q ↔ FailsWith w q) := by
    intro q hq
    unfold FailsWith
    rw [h.kind, h.status, if_neg fun hmem => hdisjoint q hq hmem.1]
  refine ⟨h'.kind.trans h.kind, h'.waiting.trans h.waiting, h'.ready.trans h.ready,
    h'.running.trans h.running, ?_, h'.length.trans h.length, fun q => ?_, ?_⟩
  · rw [h'.blocked, h.blocked, List.map_append, List.append_assoc]
  · rw [h'.status, h.status]
    by_cases hmore : q ∈ more
    · simp [hmore, hfails q hmore, hdisjoint q hmore]
    · simp [hmore]
  · have hfilter : (more.filter fun q => FailsWith w' q) = more.filter fun q => FailsWith w q :=
      List.filter_congr fun q hq => by simp [hfails q hq]
    rw [h'.failures, h.failures, hfilter, List.filter_append, List.map_append,
      List.append_assoc]

/-- Blocking several resources blocks those of them that were not blocked. By induction on the
list, which has no resource twice. -/
theorem blocked_foldl (h : g.Coherent) {cause : String} {ps : List Nat}
    (hlt : ∀ p ∈ ps, p < g.size) (hnodup : ps.Nodup) {w : Walk}
    (hlength : w.board.standings.length = g.size) :
    Blocked g cause (ps.filter fun p => labelAt g p ∉ w.blocked) w
      (ps.foldl (blockOne g cause) w) := by
  induction ps generalizing w with
  | nil => exact ⟨rfl, rfl, rfl, rfl, by simp, rfl, by simp, by simp⟩
  | cons p ps ih =>
      obtain ⟨hp, hps⟩ := List.nodup_cons.mp hnodup
      have hplt : p < g.size := hlt p List.mem_cons_self
      have hlt' : ∀ q ∈ ps, q < g.size := fun q hq => hlt q (List.mem_cons_of_mem p hq)
      rw [List.foldl_cons, List.filter_cons]
      by_cases hblocked : labelAt g p ∈ w.blocked
      · rw [blockOne_of_mem hblocked, if_neg (by simp [hblocked])]
        exact ih hlt' hps hlength
      · have hone : Blocked g cause [p] w (blockOne g cause w p) :=
          blocked_blockOne (hlength ▸ hplt) hblocked
        have hrest := ih hlt' hps (hone.length.trans hlength)
        -- The texts of the others differ from that of `p`, so they are as fresh as before.
        have hfresh : ps.filter (fun q => labelAt g q ∉ (blockOne g cause w p).blocked)
            = ps.filter fun q => labelAt g q ∉ w.blocked := by
          refine List.filter_congr fun q hq => ?_
          have hne : labelAt g q ≠ labelAt g p := fun hlabel =>
            hp (labelAt_injective h (hlt' q hq) hplt hlabel ▸ hq)
          simp [hone.blocked, hne]
        rw [hfresh] at hrest
        rw [if_pos (by simp [hblocked])]
        refine hone.trans hrest fun q hq hqp => ?_
        rw [List.mem_singleton] at hqp
        exact hp (hqp ▸ (List.mem_filter.mp hq).1)

/-- The failure of a resource newly blocks what waits for it, directly or not, and was
not blocked before. -/
theorem block_effect (h : g.Coherent) {w : Walk} (hlength : w.board.standings.length = g.size)
    {p : Nat} (hp : p < g.size) :
    ∃ fresh, Blocked g (labelAt g p) fresh w (block g w (labelAt g p)) ∧ fresh.Nodup ∧
      ∀ q, q ∈ fresh ↔ TransGen (w.kind.Awaits g) q p ∧ labelAt g q ∉ w.blocked := by
  obtain ⟨hnodup, hmem⟩ := @mem_blockedBy g w.kind h p hp
  have hlt : ∀ q ∈ Graph.positionsOf (w.kind.blockedBy g (labelAt g p)), q < g.size :=
    fun q hq => (lt_of_transGen_awaits h ((hmem q).mp hq)).1
  refine ⟨_, blocked_foldl h hlt hnodup hlength, hnodup.filter _, fun q => ?_⟩
  rw [List.mem_filter, hmem, decide_eq_true_iff]

end Moorage.Walk
