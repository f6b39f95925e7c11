import Moorage.Command
import Moorage.Proofs.Program
import Moorage.Proofs.Walk.Completion

/-!
# `Moorage.Proofs.Command`: the walks of the commands

A command does the tasks of a walk one after another, with a bound on their number. The bound is
never felt: whatever the machine answers, the walk comes to its end, and it is one of the runs that
are allowed. So everything that holds of runs holds of the commands.

What a task comes to is decided by the machine, and it may cancel the work at any time. A run
leaves all of this open, so that the machine need not be described. Of the orders in which tasks
may end a command has the one in which they began; the others are those of a walk whose tasks run
side by side.

* `walk_over`: the walk of a command is a run, and it is over.
-/

set_option autoImplicit false

namespace Moorage.Command

open Walk (Run Over ended)

variable {g : Graph} {kind : WalkKind} {b : Board} {hs : List Happening} {w : Walk}
  {σ : Type} (answer : (call : Host.interface.Call) → σ → Host.interface.Answer call × σ)

/-- One round of a walk: the queue is emptied, and then the walk is returned, or one of
the running tasks is done and its outcome is taken in. -/
theorem run_advance (settings : Settings) (engine : String) (limit : Nat) (w : Walk) (s : σ) :
    ∃ cancelled s',
      ((w.drain g cancelled (Walk.moveLimit g)).1.running = [] →
        (advance settings engine g (limit + 1) w).run answer s
          = ((w.drain g cancelled (Walk.moveLimit g)).1, s')) ∧
      ∀ p rest, (w.drain g cancelled (Walk.moveLimit g)).1.running = p :: rest →
        ∃ outcome s'', (advance settings engine g (limit + 1) w).run answer s
          = (advance settings engine g limit
              ((w.drain g cancelled (Walk.moveLimit g)).1.finish g p outcome)).run answer s'' := by
  refine ⟨(answer .isCancelled s).1, (answer .isCancelled s).2, ?_⟩
  generalize hdrain : (w.drain g (answer .isCancelled s).1 (Walk.moveLimit g)).1 = waiting
  constructor
  · intro hnone
    unfold advance
    simp only [Host.call, Program.perform, bind, Program.bind, Program.run, hdrain, hnone]
    rfl
  · intro p rest hsome
    refine ⟨_, _, Eq.trans ?_ (Program.run_bind answer
      (Host.act engine (Walk.task settings g waiting.kind p))
      (fun outcome => advance settings engine g limit (waiting.finish g p outcome))
      (answer .isCancelled s).2)⟩
    conv_lhs => unfold advance
    simp only [Host.call, Program.perform, bind, Program.bind, Program.run, hdrain, hsome]

/-- Going on with a walk for long enough brings it to its end. By induction on the bound, from
which every wait takes one and ends one task. -/
theorem advance_over (h : g.Coherent) (settings : Settings) (engine : String) (s : σ)
    {limit : Nat} (run : Run g kind b hs w) (hlimit : g.size < (ended hs).length + limit) :
    ∃ more, Run g kind b (hs ++ more) ((advance settings engine g limit w).run answer s).1 ∧
      Over ((advance settings engine g limit w).run answer s).1 := by
  induction limit generalizing hs w s with
  | zero =>
      -- No task is left to end, so there would be more completions than resources.
      have hle := (run.reached h).length_ended_le
      omega
  | succ limit ih =>
      obtain ⟨cancelled, s', hstop, hgo⟩ :=
        @run_advance g σ answer settings engine limit w s
      obtain ⟨more, hmore, hready, hnone⟩ := run.exists_wait h cancelled
      cases hrunning : (w.drain g cancelled (Walk.moveLimit g)).1.running with
      | nil =>
          rw [hstop hrunning]
          exact ⟨more, hmore, hready, hrunning⟩
      | cons p rest =>
          obtain ⟨outcome, s'', hnext⟩ := hgo p rest hrunning
          have hfinish := hmore.finish outcome hready (hrunning ▸ List.mem_cons_self)
          -- One more task has ended, for which the bound was lowered by one.
          have hlater : g.size
              < (ended (hs ++ more ++ [.ended p outcome])).length + limit := by
            rw [Walk.ended_concat, Walk.ended_append, hnone, List.append_nil]
            show g.size < (ended hs ++ [p]).length + limit
            rw [List.length_append, List.length_singleton]
            omega
          obtain ⟨later, hrun, hover⟩ := ih s'' hfinish hlater
          rw [hnext]
          refine ⟨more ++ [.ended p outcome] ++ later, ?_, hover⟩
          rwa [← List.append_assoc, ← List.append_assoc]

/-- The walk of a command is a run from the statuses that the resources start in, and it is
over: whatever the machine answers, nothing is left ready or running. -/
theorem walk_over {registry : Registry} (hg : g.BuiltFrom registry) (settings : Settings)
    (engine : String) (kind : WalkKind) (s : σ) :
    ∃ hs, Run g kind (.ofResources g.resources) hs ((walk settings engine g kind).run answer s).1 ∧
      Over ((walk settings engine g kind).run answer s).1 := by
  have hbegin : Run g kind (.ofResources g.resources) [] _ :=
    .begin (Board.length_ofResources g.resources)
  refine advance_over answer hg.coherent settings engine s hbegin ?_
  have hle := Walk.size_le_moveLimit g
  show g.size < 0 + (Walk.moveLimit g + 1)
  omega

end Moorage.Command
