import Moorage.Proofs.Walk.Reached

/-!
# `Moorage.Proofs.Walk.StartOrder`: in which order resources are started

A walk only counts the direct neighbours of a resource that have not finished. What it
guarantees is more: when a resource is started, everything behind it is done with, over
chains of any length and through disabled resources.

Destroying goes the other way: what depends on a resource goes first, and a failure keeps everything
below it. The guarantee is about the moment at which a walk gives a resource out, and it rests on
the statuses then. What happens to them later is said by the history of walks.

* `start_order`: the guarantee, for both kinds of walk.
-/

set_option autoImplicit false

namespace Moorage.Walk

open Relation (TransGen)

variable {g : Graph} {kind : WalkKind} {b : Board} {hs : List Happening} {w : Walk}

/-- Everything that the first resource of the queue waits for, directly or not, is done
with or disabled. -/
theorem Reached.status_of_transGen (hr : Reached g kind b hs w) {p q : Nat} {rest : List Nat}
    (hready : w.ready = p :: rest) (hpq : TransGen (kind.Awaits g) p q) :
    w.board.status q = kind.done ∨ w.board.status q = .disabled := by
  obtain ⟨-, -, hdone⟩ := hr.flow.of_mem_ready hready
  exact hr.marks.status_of_released hr.flow (hr.flow.released_of_transGen hdone hpq)

/-- Nothing that waits for a failed resource, directly or not, is ever started, before or after
the failure: what came off the queue is not cut off. -/
theorem Reached.not_started_of_failed (hr : Reached g kind b hs w) {p q : Nat}
    (hp : p ∈ failed hs) (hqp : TransGen (kind.Awaits g) q p) : q ∉ started hs :=
  fun hq => hr.flow.not_cutOff_of_taken (Flow.taken_of_started hq) ⟨p, hp, hqp⟩

/-- Whatever the results, the order of completion and the instant of a cancellation are,
a resource is started only when it is not disabled and everything that it depends on,
directly or not, is applied or disabled; when resources are destroyed, only when
everything that depends on it is destroyed or disabled. None is started twice. A failed
destruction keeps whatever the resource depends on from being destroyed. -/
theorem start_order {registry : Registry} (hg : g.BuiltFrom registry)
    (run : Run g kind b hs w) :
    (∀ cancelled p, (next g cancelled w).2 = some p →
      w.board.status p ≠ .disabled ∧
      (kind = .apply → ∀ q, TransGen g.DependsOn p q →
        w.board.status q = .applied ∨ w.board.status q = .disabled) ∧
      (kind = .destroy → ∀ q, TransGen g.DependsOn q p →
        w.board.status q = .destroyed ∨ w.board.status q = .disabled)) ∧
    (started hs).Nodup ∧
    (∀ p ∈ started hs, b.status p ≠ .disabled) ∧
    (kind = .destroy → ∀ p ∈ failed hs, ∀ q, TransGen g.DependsOn p q → q ∉ started hs) := by
  have hr := run.reached hg.coherent
  -- A disabled resource is skipped, in whichever walk.
  have henabled : ∀ {s : Status}, kind.skips s = false → s ≠ .disabled := by
    rintro s hskips rfl
    rw [skips_eq_true_iff.mpr (Or.inr rfl)] at hskips
    cases hskips
  refine ⟨fun cancelled p hnext => ?_, ?_, fun p hp => henabled (hr.marks.started p hp), ?_⟩
  -- What is started was ready, and what is ready waits, directly or not, for what is released.
  · obtain ⟨rest, hready, hskips⟩ := next_eq_some hnext
    rw [hr.flow.kind_eq] at hskips
    refine ⟨henabled hskips, ?_, ?_⟩
    · rintro rfl q hpq
      exact hr.status_of_transGen hready hpq
    · rintro rfl q hqp
      exact hr.status_of_transGen hready (WalkKind.transGen_awaits_destroy.mpr hqp)
  · exact (started_sublist_taken hs).nodup hr.flow.taken_nodup
  · rintro rfl p hp q hpq
    exact hr.not_started_of_failed hp (WalkKind.transGen_awaits_destroy.mpr hpq)

/-- The container is started when its network is there. The walk has created the network and gives
the container out next. -/
theorem start_order_webOnNet : ∃ hs w,
    Run .webOnNet .apply (.ofResources Graph.webOnNet.resources) hs w ∧
      (next .webOnNet false w).2 = some 1 ∧
      (w.board.status 0 = .applied ∨ w.board.status 0 = .disabled) := by
  have hbegin : Run .webOnNet .apply (.ofResources Graph.webOnNet.resources) [] _ := .begin rfl
  have hrun := (hbegin.next false rfl).finish (.ok ()) rfl List.mem_cons_self
  have hedge : Graph.webOnNet.DependsOn 1 0 := List.mem_cons_of_mem _ List.mem_cons_self
  exact ⟨_, _, hrun, rfl,
    ((start_order Graph.webOnNet_built hrun).1 false 1 rfl).2.1 rfl 0 (.single hedge)⟩

end Moorage.Walk
