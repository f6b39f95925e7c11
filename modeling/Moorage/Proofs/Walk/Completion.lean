import Moorage.Proofs.Walk.Reached

/-!
# `Moorage.Proofs.Walk.Completion`: how a walk ends

No release is lost: when nothing is ready, the running tasks are exactly the ones that
may run (`Reached.mem_running_iff`). As every wait ends with a completion and no task
ends twice, a walk comes to its end. It is a success exactly if everything is dealt
with, which is an induction along the waits: where nothing was reported, a resource
whose neighbours were all released was released itself (`Reached.released_of_lt`).

That a walk comes to its end is shown for any results of the tasks, given beforehand. Which of the
running tasks ends first is not fixed by that, and the proof takes whichever there is. The tasks
themselves are taken to end.

* `completion`: the statement for every run.
-/

set_option autoImplicit false

namespace Moorage.Walk

open Relation (TransGen)

variable {g : Graph} {kind : WalkKind} {b : Board} {hs : List Happening} {w : Walk}

/-- What came off the queue was skipped, refused or started. The fourth way, to be passed over,
does not come about. -/
theorem Flow.of_mem_taken (hf : Flow g kind hs w) {p : Nat} (hp : p ∈ taken hs) :
    Happening.skipped p ∈ hs ∨ Happening.refused p ∈ hs ∨ p ∈ started hs := by
  rcases mem_taken.mp hp with hpassed | hskipped | hrefused | hstarted
  · exact absurd hpassed (hf.not_passed p)
  · exact Or.inl hskipped
  · exact Or.inr (Or.inl hrefused)
  · exact Or.inr (Or.inr (mem_started.mpr hstarted))

/-- When nothing is ready, whatever waits for nothing any more has come off the
queue. -/
theorem Flow.taken_of_released_all (hf : Flow g kind hs w) (hready : w.ready = []) {p : Nat}
    (hp : p < g.size) (hdone : ∀ q, kind.Awaits g p q → q ∈ released hs) : p ∈ taken hs := by
  by_contra hnew
  have hmem : p ∈ w.ready := (hf.queue.mem_ready p).mpr ⟨hp, hnew, hdone⟩
  rw [hready] at hmem
  cases hmem

namespace Reached

/-- While a walk waits, what runs is what has all its neighbours released and was
neither skipped nor refused nor finished. -/
theorem mem_running_iff (hr : Reached g kind b hs w) (hready : w.ready = []) (p : Nat) :
    p ∈ w.running ↔ p < g.size ∧ p ∉ ended hs ∧ Happening.skipped p ∉ hs ∧
      Happening.refused p ∉ hs ∧ ∀ q, kind.Awaits g p q → q ∈ released hs := by
  rw [hr.flow.mem_running]
  constructor
  · rintro ⟨hstart, hend⟩
    have htaken := Flow.taken_of_started hstart
    exact ⟨hr.flow.taken_lt p htaken, hend, hr.flow.not_skipped_of_started hstart,
      hr.flow.not_refused_of_started hstart, hr.flow.taken_awaits p htaken⟩
  · -- With an empty queue it came off the queue, and being started is all that is left.
    rintro ⟨hp, hend, hskipped, hrefused, hdone⟩
    rcases hr.flow.of_mem_taken (hr.flow.taken_of_released_all hready hp hdone) with h | h | h
    · exact absurd h hskipped
    · exact absurd h hrefused
    · exact ⟨h, hend⟩

/-- While a task runs, fewer tasks have ended than there are resources. This bounds how often a
walk still has to wait. -/
theorem length_ended_lt (hr : Reached g kind b hs w) {p : Nat} (hp : p ∈ w.running) :
    (ended hs).length < g.size := by
  obtain ⟨hstart, hend⟩ := (hr.flow.mem_running p).mp hp
  have hlt : ∀ q ∈ p :: ended hs, q < g.size := by
    intro q hq
    rcases List.mem_cons.mp hq with rfl | hq
    · exact hr.flow.taken_lt q (Flow.taken_of_started hstart)
    · exact hr.flow.taken_lt q (Flow.taken_of_started (hr.flow.ended_started q hq))
  exact Digraph.length_le_of_lt (List.nodup_cons.mpr ⟨hend, hr.flow.ended_nodup⟩) hlt

/-- At the end of a walk what was started has ended, since nothing runs any more. -/
theorem ended_of_started (hr : Reached g kind b hs w) (hover : Over w) {p : Nat}
    (hp : p ∈ started hs) : p ∈ ended hs := by
  by_contra hend
  have hrunning := (hr.flow.mem_running p).mpr ⟨hp, hend⟩
  rw [hover.2] at hrunning
  cases hrunning

/-- At the end of a walk that reported nothing, everything was released: a resource of
which everything that it waits for was released has come off the queue, and it was
neither refused nor did it fail. -/
theorem released_of_lt (h : g.Coherent) (hr : Reached g kind b hs w) (hover : Over w)
    (hnone : w.failures = []) {p : Nat} (hp : p < g.size) : p ∈ released hs := by
  have hunreported : ∀ q error, ¬ Reason g kind b hs q error := by
    intro q error hq
    obtain ⟨_, hmem⟩ := hr.ledger.entered q error hq
    rw [hnone] at hmem
    cases hmem
  -- The induction is along the waits, which end somewhere.
  induction p using (@awaits_wellFounded g kind h).induction with
  | _ p ih =>
      have hdone : ∀ q, kind.Awaits g p q → q ∈ released hs :=
        fun q hpq => ih q hpq (lt_of_awaits h hpq).2
      have htaken := hr.flow.taken_of_released_all hover.1 hp hdone
      rcases hr.flow.of_mem_taken htaken with hskipped | hrefused | hstart
      · exact mem_released.mpr (Or.inl hskipped)
      · exact absurd (.refused hrefused) (hunreported p _)
      · obtain ⟨outcome, hend⟩ := mem_ended.mp (hr.ended_of_started hover hstart)
        cases outcome with
        | ok _ => exact mem_released.mpr (Or.inr hend)
        | error error => exact absurd (.own hend) (hunreported p _)

/-- What is reported is left neither done with nor disabled. Whichever reason there is, it comes
with a status. -/
theorem status_of_reason (hr : Reached g kind b hs w) {p : Nat} {error : Error}
    (hp : Reason g kind b hs p error) :
    w.board.status p ≠ kind.done ∧ w.board.status p ≠ .disabled := by
  have hfailed : Status.failed ≠ kind.done := by cases kind <;> decide
  cases hp with
  | own hended =>
      rw [hr.marks.failed p (mem_failed.mpr ⟨_, hended⟩)]
      exact ⟨hfailed, by decide⟩
  | refused hrefused =>
      -- What is refused was neither started nor dragged along, so its status is the one it had.
      have htaken : p ∈ taken hs := Flow.taken_of_refused hrefused
      have hkept := hr.marks.kept p
        (fun hstart => hr.flow.not_refused_of_started hstart hrefused)
        fun hdrag => hr.flow.not_cutOff_of_taken htaken hdrag.1
      have hskips := hr.marks.refused p hrefused
      rw [← Bool.not_eq_true, skips_eq_true_iff] at hskips
      rw [hkept]
      exact not_or.mp hskips
  | dragged hdragged _ _ =>
      rw [hr.marks.dragged p hdragged]
      exact ⟨hfailed, by decide⟩

/-- At its end a walk is a success exactly if everything is done with or disabled. One direction
is about the statuses of what is reported, the other is an induction along the waits. -/
theorem result_eq_ok_iff (h : g.Coherent) (hr : Reached g kind b hs w) (hover : Over w) :
    w.result = .ok () ↔
      ∀ p < g.size, w.board.status p = kind.done ∨ w.board.status p = .disabled := by
  have hresult : w.result = .ok () ↔ w.failures = [] := by
    unfold result
    rw [← List.isEmpty_iff]
    split
    · next hnone => simp [hnone]
    · next hsome => simp [hsome]
  rw [hresult]
  constructor
  -- Without a failure everything was released in the end.
  · intro hnone p hp
    exact hr.marks.status_of_released hr.flow (hr.released_of_lt h hover hnone hp)
  -- A failure would be that of a resource whose status is another one.
  · intro hstatus
    by_contra hsome
    obtain ⟨entry, hentry⟩ := List.exists_mem_of_ne_nil _ hsome
    obtain ⟨p, -, hreason⟩ := hr.ledger.explained entry hentry
    obtain ⟨hdone, hdisabled⟩ := hr.status_of_reason hreason
    exact (hstatus p (hreason.lt h hr.flow)).elim hdone hdisabled

end Reached

/-- A run comes to a wait when its queue is emptied. There are moves enough for that, and no task
ends meanwhile. -/
theorem Run.exists_wait (h : g.Coherent) (run : Run g kind b hs w) (cancelled : Bool) :
    ∃ more, Run g kind b (hs ++ more) (Walk.drain g cancelled (moveLimit g) w).1 ∧
      (Walk.drain g cancelled (moveLimit g) w).1.ready = [] ∧ ended more = [] := by
  have hmoves : g.size ≤ (taken hs).length + moveLimit g :=
    Nat.le_add_left_of_le (size_le_moveLimit g)
  obtain ⟨more, hmore, hready, -, hended⟩ := run.drain h cancelled hmoves
  exact ⟨more, hmore, hready, hended⟩

/-- Every run can be brought to its end, whatever the results of the tasks are: the
queue is emptied, and each wait ends with a completion, of which there are no more than
resources. -/
theorem Run.exists_over {hs : List Happening} {w : Walk} (h : g.Coherent)
    (run : Run g kind b hs w) (outcome : Nat → Except Error Unit) :
    ∃ more w', Run g kind b (hs ++ more) w' ∧ Over w' ∧
      ∀ p result, Happening.ended p result ∈ more → result = outcome p := by
  -- The queue is emptied first, which ends no task.
  obtain ⟨more, hmore, hready, hnone⟩ := run.exists_wait h false
  have hunended : ∀ p result, Happening.ended p result ∉ more := by
    intro p result hmem
    have hp : p ∈ ended more := mem_ended.mpr ⟨result, hmem⟩
    rw [hnone] at hp
    cases hp
  generalize (Walk.drain g false (moveLimit g) w).1 = waiting at hmore hready
  cases hrunning : waiting.running with
  | nil =>
      exact ⟨more, waiting, hmore, ⟨hready, hrunning⟩, fun p result hmem =>
        absurd hmem (hunended p result)⟩
  | cons p rest =>
      -- One of the running tasks ends with the result that it is to have, and the run goes on from
      -- there.
      have hp : p ∈ waiting.running := hrunning ▸ List.mem_cons_self
      have hlt := (hmore.reached h).length_ended_lt hp
      have hfinish := hmore.finish (outcome p) hready hp
      obtain ⟨later, w', hlater, hover, hresults⟩ := Run.exists_over h hfinish outcome
      refine ⟨more ++ [.ended p (outcome p)] ++ later, w', ?_, hover, ?_⟩
      · rwa [← List.append_assoc, ← List.append_assoc]
      · intro q result hmem
        rcases List.mem_append.mp hmem with hmem | hmem
        · rcases List.mem_append.mp hmem with hmem | hmem
          · exact absurd hmem (hunended q result)
          · cases List.mem_singleton.mp hmem
            rfl
        · exact hresults q result hmem
termination_by g.size - (ended hs).length
decreasing_by
  rw [ended_append, hnone, List.append_nil] at hlt
  rw [ended_concat, ended_append, hnone, List.append_nil]
  show g.size - ((ended hs ++ [p]).length) < g.size - (ended hs).length
  rw [List.length_append, List.length_singleton]
  omega

/-- Whatever the results, the order of completion and the instant of a cancellation are:
the queue is empty whenever a walk waits, and then exactly those resources run that have
not finished, were neither skipped nor refused, and wait only for what was skipped or
finished successfully. There are no more completions than resources, and every run goes
on to an end, at which nothing is ready and nothing runs. The walk is then a success
exactly if every resource is done with or disabled. -/
theorem completion {registry : Registry} (hg : g.BuiltFrom registry)
    (run : Run g kind b hs w) :
    (∀ cancelled, ∃ more, Run g kind b (hs ++ more) (drain g cancelled (moveLimit g) w).1 ∧
      (drain g cancelled (moveLimit g) w).1.ready = [] ∧ ended more = []) ∧
    (w.ready = [] → w.running.Nodup ∧ ∀ p, p ∈ w.running ↔
      p < g.size ∧ p ∉ ended hs ∧ Happening.skipped p ∉ hs ∧ Happening.refused p ∉ hs ∧
        ∀ q, kind.Awaits g p q →
          Happening.skipped q ∈ hs ∨ Happening.ended q (.ok ()) ∈ hs) ∧
    (ended hs).length ≤ g.size ∧
    (∀ outcome : Nat → Except Error Unit, ∃ more w', Run g kind b (hs ++ more) w' ∧ Over w' ∧
      ∀ p result, Happening.ended p result ∈ more → result = outcome p) ∧
    (Over w → (w.result = .ok () ↔
      ∀ p < g.size, w.board.status p = kind.done ∨ w.board.status p = .disabled)) := by
  have h := hg.coherent
  have hr := run.reached h
  refine ⟨run.exists_wait h, fun hready => ⟨hr.flow.running_nodup, fun p => ?_⟩,
    hr.length_ended_le, run.exists_over h, hr.result_eq_ok_iff h⟩
  simp only [hr.mem_running_iff hready, mem_released]

/-- With its network created, the container is the one that runs: the walk waits, and what may run
is read off what has happened. -/
theorem completion_webOnNet : ∃ hs w,
    Run .webOnNet .apply (.ofResources Graph.webOnNet.resources) hs w ∧ w.running = [1] ∧
      (1 ∈ w.running ↔ 1 < Graph.webOnNet.size ∧ 1 ∉ ended hs ∧ Happening.skipped 1 ∉ hs ∧
        Happening.refused 1 ∉ hs ∧ ∀ q, WalkKind.apply.Awaits .webOnNet 1 q →
          Happening.skipped q ∈ hs ∨ Happening.ended q (.ok ()) ∈ hs) := by
  have hbegin : Run .webOnNet .apply (.ofResources Graph.webOnNet.resources) [] _ := .begin rfl
  have hnet := (hbegin.next false rfl).finish (.ok ()) rfl List.mem_cons_self
  have hweb := hnet.next false rfl
  exact ⟨_, _, hweb, rfl, ((completion Graph.webOnNet_built hweb).2.1 rfl).2 1⟩

end Moorage.Walk
