import Moorage.Proofs.Walk.Failures

/-!
# `Moorage.Proofs.Walk.Reached`: what holds after every run

`Run.reached` puts the invariants of a walk together: every run leads to a walk whose
queue, statuses and failures are what its happenings make of them. The statements
about whole walks start from there.

The three invariants are shown together, by one induction on the run: the statuses need to know what
came off the queue, and the failures need both. Each has its step lemma in a module of its own, and
all that is left here is to begin and to put the steps behind one another.

`Run.drain` says that emptying the queue is a run too. The number of moves that it is
given suffices, since no resource comes off the queue twice.
-/

set_option autoImplicit false

namespace Moorage.Walk

variable {g : Graph} {kind : WalkKind} {b : Board} {hs : List Happening} {w : Walk}

/-- The queue, the statuses and the failures of a walk are right for what has
happened. -/
structure Reached (g : Graph) (kind : WalkKind) (b : Board) (hs : List Happening) (w : Walk) :
    Prop where
  flow : Flow g kind hs w
  marks : Marks g kind b hs w
  ledger : Ledger g kind b hs w

/-- Every move keeps all of it, by the three step lemmas. -/
theorem Reached.step (h : g.Coherent) (hr : Reached g kind b hs w) {e : Happening} {w' : Walk}
    (hmove : Move g w e w') : Reached g kind b (hs ++ [e]) w' :=
  have heffect := hmove.effect
  ⟨hr.flow.step h hr.marks.length heffect, hr.marks.step h hr.flow heffect,
    hr.ledger.step h hr.flow hr.marks heffect⟩

/-- Every run leads to a walk that is right for what has happened. By induction on the run, of
which every move keeps the invariants. -/
theorem Run.reached (h : g.Coherent) (run : Run g kind b hs w) : Reached g kind b hs w := by
  induction run with
  | begin hlength => exact ⟨flow_begin h b, marks_begin hlength, ledger_begin⟩
  | move _ hmove ih => exact ih.step h hmove

/-! ### How long a walk takes -/

/-- No more tasks end than there are resources: each of them ends once. -/
theorem Reached.length_ended_le (hr : Reached g kind b hs w) : (ended hs).length ≤ g.size :=
  Digraph.length_le_of_lt hr.flow.ended_nodup fun p hp =>
    hr.flow.taken_lt p (Flow.taken_of_started (hr.flow.ended_started p hp))

/-- When everything came off the queue, it is empty. A resource comes off once, so there is
nothing left to be on it. -/
theorem Reached.ready_eq_nil (hr : Reached g kind b hs w) (hall : g.size ≤ (taken hs).length) :
    w.ready = [] := by
  cases hready : w.ready with
  | nil => rfl
  | cons p rest =>
      obtain ⟨hp, hnew, -⟩ := hr.flow.of_mem_ready hready
      have hle := Digraph.length_le_of_lt (List.nodup_cons.mpr ⟨hnew, hr.flow.taken_nodup⟩)
        (List.forall_mem_cons.mpr ⟨hp, hr.flow.taken_lt⟩)
      rw [List.length_cons] at hle
      omega

/-- A walk is given at least as many moves as there are resources. More of them do no harm. -/
theorem size_le_moveLimit (g : Graph) : g.size ≤ moveLimit g :=
  Nat.le_mul_of_pos_right g.size (Nat.pow_pos Nat.zero_lt_two)

/-- Emptying an empty queue changes nothing. -/
theorem drain_of_nil (cancelled : Bool) (moves : Nat) (hready : w.ready = []) :
    drain g cancelled moves w = (w, []) := by
  cases moves with
  | zero => rfl
  | succ moves =>
      unfold Walk.drain
      rw [hready]
      rfl

/-- Emptying a queue begins with one move, and goes on with the walk that this leads to. It names
what the move has started in front of what the others start. -/
theorem drain_succ (cancelled : Bool) (moves : Nat) {p : Nat} {rest : List Nat}
    (hready : w.ready = p :: rest) :
    drain g cancelled (moves + 1) w
      = ((drain g cancelled moves (next g cancelled w).1).1,
          (verdict g cancelled w p).started?.toList
            ++ (drain g cancelled moves (next g cancelled w).1).2) := by
  rw [← next_started hready, Walk.drain, hready]
  rfl

/-- Emptying the queue is a run, in which no task ends. It names what it starts. By induction on
the moves, each of which takes one resource off that will not come again. -/
theorem Run.drain (h : g.Coherent) (run : Run g kind b hs w) (cancelled : Bool) {moves : Nat}
    (hmoves : g.size ≤ (taken hs).length + moves) :
    ∃ more, Run g kind b (hs ++ more) (drain g cancelled moves w).1 ∧
      (drain g cancelled moves w).1.ready = [] ∧
      (drain g cancelled moves w).2 = started more ∧ ended more = [] := by
  induction moves generalizing hs w with
  | zero =>
      -- All resources have come off the queue, so there is none left on it.
      have hempty := (run.reached h).ready_eq_nil hmoves
      refine ⟨[], ?_, hempty, rfl, rfl⟩
      rw [List.append_nil]
      exact run
  | succ moves ih =>
      cases hready : w.ready with
      | nil =>
          rw [drain_of_nil cancelled _ hready]
          refine ⟨[], ?_, hready, rfl, rfl⟩
          rw [List.append_nil]
          exact run
      | cons p rest =>
          -- The resource in front is one that had not come off before, so there is one move less
          -- to make.
          have hrun := run.next cancelled hready
          have hmoves' : g.size
              ≤ (taken (hs ++ [verdict g cancelled w p])).length + moves := by
            rw [taken_concat, taken?_verdict, List.length_append]
            show g.size ≤ (taken hs).length + 1 + moves
            omega
          obtain ⟨more, hmore, hempty, hstarted, hnone⟩ := ih hrun hmoves'
          rw [drain_succ cancelled moves hready]
          refine ⟨verdict g cancelled w p :: more, ?_, hempty, ?_, ?_⟩
          · rwa [List.append_cons]
          · show _ ++ (drain g cancelled moves (Walk.next g cancelled w).1).2 = _
            rw [hstarted]
            unfold started
            cases hstart : (verdict g cancelled w p).started? with
            | none => rw [List.filterMap_cons_none hstart]; rfl
            | some q => rw [List.filterMap_cons_some hstart]; rfl
          · unfold ended
            rw [List.filterMap_cons_none (ended?_verdict g cancelled w p)]
            exact hnone

end Moorage.Walk
