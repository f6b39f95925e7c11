import Moorage.Proofs.Walk.Block
import Moorage.Proofs.Walk.Queue
import Moorage.Proofs.Walk.Run

/-!
# `Moorage.Proofs.Walk.Flow`: the invariant of a walk under way

A walk keeps counters, a queue, a list of running tasks and a list of blocked references, and
decides with these what to start next. What is promised of it is about happenings: what was
started, refused, skipped, and how it ended. `Flow` ties the one to the other. It is an invariant
of the pair, the walk and what has happened so far, so that nothing about the schedule needs to be
known besides the happenings themselves.

The heart of it is `Flow.taken_awaits`: whatever came off the queue waited for nothing but released
resources. As released resources came off the queue themselves, this carries over to everything
that they wait for (`Flow.released_of_transGen`), and so a failure and a start never meet on one
chain of waits (`Flow.not_cutOff`). The references that are blocked are the ones cut off by a
failure, whether they wait for it directly or not, while the counters only count direct waits.

The queue itself has an invariant of its own, `Queue`, which is a field here. What is passed over,
in a walk that was cancelled, comes later and is not part of a flow: `not_passed` says so.

`Flow.step` is the step lemma. It has one case for each effect, and the lemmas before it are these
cases.
-/

set_option autoImplicit false

namespace Moorage.Walk

open Relation (TransGen)

variable {g : Graph} {kind : WalkKind} {hs : List Happening} {w : Walk}

/-- Where each resource has one happening of a sort at most, two of that sort that are
about one resource stand at one place. -/
theorem index_unique {α β : Type} {f : α → Option β} {xs : List α}
    (hnodup : (xs.filterMap f).Nodup) {i j : Nat} {x y : α} (hx : xs[i]? = some x)
    (hy : xs[j]? = some y) {c : β} (hfx : f x = some c) (hfy : f y = some c) : i = j := by
  induction xs generalizing i j with
  | nil => cases hx
  | cons z xs ih =>
      have htail : (xs.filterMap f).Nodup := by
        cases hz : f z with
        | none => rwa [List.filterMap_cons_none hz] at hnodup
        | some d =>
            rw [List.filterMap_cons_some hz] at hnodup
            exact (List.nodup_cons.mp hnodup).2
      -- The first of the list has no partner further on, since its resource is in the rest then.
      have hnew : ∀ {k : Nat} {u : α}, xs[k]? = some u → f u = some c → f z ≠ some c := by
        intro k u hu hfu hfz
        rw [List.filterMap_cons_some hfz, List.nodup_cons] at hnodup
        exact hnodup.1 (List.mem_filterMap.mpr ⟨u, List.mem_of_getElem? hu, hfu⟩)
      cases i with
      | zero =>
          cases hx
          cases j with
          | zero => rfl
          | succ j => exact absurd hfx (hnew hy hfy)
      | succ i =>
          cases j with
          | zero =>
              cases hy
              exact absurd hfy (hnew hx hfx)
          | succ j => rw [ih htail hx hy]

/-- Two happenings that are about one resource, where each resource has one at most, are
the same. -/
theorem eq_of_nodup_filterMap {α β : Type} {f : α → Option β} {xs : List α}
    (hnodup : (xs.filterMap f).Nodup) {x y : α} (hx : x ∈ xs) (hy : y ∈ xs) {c : β}
    (hfx : f x = some c) (hfy : f y = some c) : x = y := by
  obtain ⟨i, hi⟩ := List.mem_iff_getElem?.mp hx
  obtain ⟨j, hj⟩ := List.mem_iff_getElem?.mp hy
  rw [index_unique hnodup hi hj hfx hfy, hj] at hi
  exact (Option.some.inj hi).symm

/-- A resource is cut off when something that it waits for, directly or not, has
failed. -/
def CutOff (g : Graph) (kind : WalkKind) (hs : List Happening) (p : Nat) : Prop :=
  ∃ f ∈ failed hs, TransGen (kind.Awaits g) p f

/-- The queue, the running tasks and the blocked references of a walk are what the
happenings so far make of them. -/
structure Flow (g : Graph) (kind : WalkKind) (hs : List Happening) (w : Walk) : Prop where
  kind_eq : w.kind = kind
  queue : Queue g kind (taken hs) (released hs) w
  taken_nodup : (taken hs).Nodup
  taken_lt : ∀ p ∈ taken hs, p < g.size
  taken_awaits : ∀ p ∈ taken hs, ∀ q, kind.Awaits g p q → q ∈ released hs
  running_nodup : w.running.Nodup
  mem_running : ∀ p, p ∈ w.running ↔ p ∈ started hs ∧ p ∉ ended hs
  ended_nodup : (ended hs).Nodup
  ended_started : ∀ p ∈ ended hs, p ∈ started hs
  mem_blocked : ∀ p < g.size, labelAt g p ∈ w.blocked ↔ CutOff g kind hs p
  not_passed : ∀ p, Happening.passed p ∉ hs

/-! ### Telling a neighbour leaves most of a walk alone -/

/-- Only the counters and the queue change when a resource has finished. The five lemmas below say
this of one field each. -/
theorem release_frame (g : Graph) (w : Walk) (p : Nat) :
    ∃ waiting ready, release g w p = { w with waiting := waiting, ready := ready } := by
  have hfold : ∀ (ps : List Nat) (w : Walk), ∃ waiting ready,
      ps.foldl (releaseOne g) w = { w with waiting := waiting, ready := ready } := by
    intro ps
    induction ps with
    | nil => exact fun w => ⟨w.waiting, w.ready, rfl⟩
    | cons q ps ih =>
        intro w
        obtain ⟨waiting, ready, h⟩ := ih (releaseOne g w q)
        refine ⟨waiting, ready, ?_⟩
        rw [List.foldl_cons, h]
        unfold releaseOne
        dsimp only
        split <;> rfl
  exact hfold _ w

/-- Releasing a resource does not turn the walk round. -/
@[simp]
theorem release_kind (w : Walk) (p : Nat) : (release g w p).kind = w.kind := by
  obtain ⟨_, _, h⟩ := release_frame g w p
  rw [h]

/-- Releasing a resource tells its neighbours and not the board, where its status was set before. -/
@[simp]
theorem release_board (w : Walk) (p : Nat) : (release g w p).board = w.board := by
  obtain ⟨_, _, h⟩ := release_frame g w p
  rw [h]

/-- Releasing a resource starts nothing by itself. What has become ready is put on the queue. -/
@[simp]
theorem release_running (w : Walk) (p : Nat) : (release g w p).running = w.running := by
  obtain ⟨_, _, h⟩ := release_frame g w p
  rw [h]

/-- Releasing a resource blocks none and frees none. -/
@[simp]
theorem release_blocked (w : Walk) (p : Nat) : (release g w p).blocked = w.blocked := by
  obtain ⟨_, _, h⟩ := release_frame g w p
  rw [h]

/-- Releasing a resource is not a failure, and takes none back. -/
@[simp]
theorem release_failures (w : Walk) (p : Nat) : (release g w p).failures = w.failures := by
  obtain ⟨_, _, h⟩ := release_frame g w p
  rw [h]

namespace Flow

/-! ### What follows from the invariant -/

/-- What a task was started for came off the queue: a start is one of the ways to come off it. -/
theorem taken_of_started {p : Nat} (hp : p ∈ started hs) : p ∈ taken hs :=
  mem_taken.mpr (Or.inr (Or.inr (Or.inr (mem_started.mp hp))))

/-- What was skipped came off the queue. -/
theorem taken_of_skipped {p : Nat} (hp : Happening.skipped p ∈ hs) : p ∈ taken hs :=
  mem_taken.mpr (Or.inr (Or.inl hp))

/-- What was refused came off the queue. -/
theorem taken_of_refused {p : Nat} (hp : Happening.refused p ∈ hs) : p ∈ taken hs :=
  mem_taken.mpr (Or.inr (Or.inr (Or.inl hp)))

/-- What ended was started, since a walk takes in the end of running tasks only. -/
theorem started_of_ended (hw : Flow g kind hs w) {p : Nat} {outcome : Except Error Unit}
    (hp : Happening.ended p outcome ∈ hs) : p ∈ started hs :=
  hw.ended_started p (mem_ended.mpr ⟨outcome, hp⟩)

/-- What was released came off the queue. It was skipped there, or its task has ended and was
started there. -/
theorem taken_of_released (hw : Flow g kind hs w) {p : Nat} (hp : p ∈ released hs) :
    p ∈ taken hs := by
  rcases mem_released.mp hp with hskip | hend
  · exact taken_of_skipped hskip
  · exact taken_of_started (hw.started_of_ended hend)

/-- What failed came off the queue, as its task was started. -/
theorem taken_of_failed (hw : Flow g kind hs w) {p : Nat} (hp : p ∈ failed hs) :
    p ∈ taken hs := by
  obtain ⟨_, hend⟩ := mem_failed.mp hp
  exact taken_of_started (hw.started_of_ended hend)

/-- What is ready has not come off the queue, and waits for nothing but released
resources. -/
theorem of_mem_ready (hw : Flow g kind hs w) {p : Nat} {rest : List Nat}
    (hready : w.ready = p :: rest) :
    p < g.size ∧ p ∉ taken hs ∧ ∀ q, kind.Awaits g p q → q ∈ released hs :=
  (hw.queue.mem_ready p).mp (hready ▸ List.mem_cons_self)

/-- A resource is skipped or started, but not both. It comes off the queue once, and this and the
next two lemmas are that fact for the ways of coming off. -/
theorem not_skipped_of_started (hw : Flow g kind hs w) {p : Nat} (hp : p ∈ started hs) :
    Happening.skipped p ∉ hs := fun hskip =>
  nomatch eq_of_nodup_filterMap hw.taken_nodup hskip (mem_started.mp hp) rfl rfl

/-- A resource is refused or started, but not both. -/
theorem not_refused_of_started (hw : Flow g kind hs w) {p : Nat} (hp : p ∈ started hs) :
    Happening.refused p ∉ hs := fun hrefused =>
  nomatch eq_of_nodup_filterMap hw.taken_nodup hrefused (mem_started.mp hp) rfl rfl

/-- A resource is refused or skipped, but not both. -/
theorem not_refused_of_skipped (hw : Flow g kind hs w) {p : Nat}
    (hp : Happening.skipped p ∈ hs) : Happening.refused p ∉ hs := fun hrefused =>
  nomatch eq_of_nodup_filterMap hw.taken_nodup hrefused hp rfl rfl

/-- A task ends once, and so it has one outcome. Whether a resource was released or has failed is
settled by that. -/
theorem outcome_unique (hw : Flow g kind hs w) {p : Nat} {a b : Except Error Unit}
    (ha : Happening.ended p a ∈ hs) (hb : Happening.ended p b ∈ hs) : a = b := by
  cases eq_of_nodup_filterMap hw.ended_nodup ha hb rfl rfl
  rfl

/-- What was released has not failed. It was skipped and had no task, or its task has succeeded. -/
theorem not_failed_of_released (hw : Flow g kind hs w) {p : Nat} (hp : p ∈ released hs) :
    p ∉ failed hs := by
  intro hfail
  obtain ⟨_, hend⟩ := mem_failed.mp hfail
  rcases mem_released.mp hp with hskip | hok
  · exact hw.not_skipped_of_started (hw.started_of_ended hend) hskip
  · cases hw.outcome_unique hok hend

/-- A running resource is not released. Its task has not ended, and it was not skipped. -/
theorem not_released_of_running (hw : Flow g kind hs w) {p : Nat} (hp : p ∈ w.running) :
    p ∉ released hs := by
  obtain ⟨hstart, hend⟩ := (hw.mem_running p).mp hp
  intro hrel
  rcases mem_released.mp hrel with hskip | hok
  · exact hw.not_skipped_of_started hstart hskip
  · exact hend (mem_ended.mpr ⟨_, hok⟩)

/-- If a resource waits directly for nothing but released resources, the same holds of
everything that it waits for. -/
theorem released_of_transGen (hw : Flow g kind hs w) {p q : Nat}
    (hp : ∀ r, kind.Awaits g p r → r ∈ released hs) (hpq : TransGen (kind.Awaits g) p q) :
    q ∈ released hs := by
  induction hpq with
  | single hstep => exact hp _ hstep
  | tail _ hstep ih => exact hw.taken_awaits _ (hw.taken_of_released ih) _ hstep

/-- A resource that waits directly for nothing but released resources is not cut off. Everything
behind it was released too, and what was released has not failed. -/
theorem not_cutOff (hw : Flow g kind hs w) {p : Nat}
    (hp : ∀ r, kind.Awaits g p r → r ∈ released hs) : ¬ CutOff g kind hs p :=
  fun ⟨_, hfail, hpf⟩ => hw.not_failed_of_released (hw.released_of_transGen hp hpf) hfail

/-- What came off the queue is not cut off, at that time or later: it waits for released resources
only, and these have ended well for good. -/
theorem not_cutOff_of_taken (hw : Flow g kind hs w) {p : Nat} (hp : p ∈ taken hs) :
    ¬ CutOff g kind hs p :=
  hw.not_cutOff (hw.taken_awaits p hp)

/-- What waits for a resource that was not released has not come off the queue. This is how an
order of starts follows from the counters. -/
theorem not_taken_of_awaits (hw : Flow g kind hs w) {p q : Nat} (hp : p ∉ released hs)
    (hqp : kind.Awaits g q p) : q ∉ taken hs :=
  fun hq => hp (hw.taken_awaits q hq p hqp)

end Flow

/-- Only a failure cuts resources off. Whatever else happens, the set of them stays. -/
theorem cutOff_concat {e : Happening} (he : e.failed? = none) (p : Nat) :
    CutOff g kind (hs ++ [e]) p ↔ CutOff g kind hs p := by
  unfold CutOff
  rw [failed_concat_of_none he]

/-- One more failure cuts off what waits for the failed resource. Others were cut off before, and
the two sets may meet. -/
theorem cutOff_failed {p : Nat} {error : Error} (q : Nat) :
    CutOff g kind (hs ++ [.ended p (.error error)]) q ↔
      CutOff g kind hs q ∨ TransGen (kind.Awaits g) q p := by
  unfold CutOff
  simp only [failed_concat, Happening.failed?, Option.toList, List.mem_append,
    List.mem_singleton]
  constructor
  · rintro ⟨f, hf | rfl, hqf⟩
    · exact Or.inl ⟨f, hf, hqf⟩
    · exact Or.inr hqf
  · rintro (⟨f, hf, hqf⟩ | hqp)
    · exact ⟨f, Or.inl hf, hqf⟩
    · exact ⟨p, Or.inr rfl, hqp⟩

/-! ### The step lemma, one case for each effect -/

/-- At the start nothing has happened. Ready are those that wait for nothing, which is what the
counters are set up for, and that takes a graph whose edges are mirrored. -/
theorem flow_begin (h : g.Coherent) (b : Board) : Flow g kind [] (begin g kind b) where
  kind_eq := rfl
  queue := queue_begin h b
  taken_nodup := List.nodup_nil
  taken_lt p hp := nomatch hp
  taken_awaits p hp := nomatch hp
  running_nodup := List.nodup_nil
  mem_running p := by simp [begin, started]
  ended_nodup := List.nodup_nil
  ended_started p hp := nomatch hp
  mem_blocked p _ := by simp [begin, CutOff, failed]
  not_passed p := List.not_mem_nil

namespace Flow

/-- A resource left the queue, and its fate is settled for this walk: it was skipped, or
it was refused. -/
theorem taken_concat_nodup (hw : Flow g kind hs w) {p : Nat} {rest : List Nat}
    (hready : w.ready = p :: rest) : (taken hs ++ [p]).Nodup := by
  refine List.nodup_append.mpr ⟨hw.taken_nodup, List.nodup_singleton p, ?_⟩
  rintro q hq _ hp rfl
  rw [List.mem_singleton] at hp
  exact (hw.of_mem_ready hready).2.1 (hp ▸ hq)

/-- With one more resource off the queue, what came off it is still a position. -/
theorem taken_concat_lt (hw : Flow g kind hs w) {p : Nat} {rest : List Nat}
    (hready : w.ready = p :: rest) : ∀ q ∈ taken hs ++ [p], q < g.size := by
  intro q hq
  rcases List.mem_append.mp hq with hq | hq
  · exact hw.taken_lt q hq
  · rw [List.mem_singleton.mp hq]
    exact (hw.of_mem_ready hready).1

/-- With one more resource off the queue, what came off it still waits for nothing but
released resources. -/
theorem taken_concat_awaits (hw : Flow g kind hs w) {p : Nat} {rest : List Nat}
    (hready : w.ready = p :: rest) :
    ∀ q ∈ taken hs ++ [p], ∀ r, kind.Awaits g q r → r ∈ released hs := by
  intro q hq
  rcases List.mem_append.mp hq with hq | hq
  · exact hw.taken_awaits q hq
  · rw [List.mem_singleton.mp hq]
    exact (hw.of_mem_ready hready).2.2

/-- A resource that is skipped comes off the queue and is released at once, so those that wait for
it can go on. It had not been released before, so its neighbours are told once. -/
theorem step_skipped (h : g.Coherent) (hw : Flow g kind hs w) {p : Nat} {rest : List Nat}
    (hready : w.ready = p :: rest) :
    Flow g kind (hs ++ [.skipped p]) (release g { w with ready := rest } p) := by
  obtain ⟨hp, hnew, -⟩ := hw.of_mem_ready hready
  have hunreleased : p ∉ released hs := fun hrel => hnew (hw.taken_of_released hrel)
  -- `p` was not released so far, so nothing that waits for it has come off the queue.
  have hgone : ∀ q, kind.Awaits g q p → q ∉ taken hs ++ [p] := by
    intro q hqp hq
    rcases List.mem_append.mp hq with hq | hq
    · exact hw.not_taken_of_awaits hunreleased hqp hq
    · rw [List.mem_singleton] at hq
      exact not_awaits_self h p (.single (hq ▸ hqp))
  constructor
  case not_passed => intro q; simpa using hw.not_passed q
  all_goals simp only [taken_concat, released_concat, started_concat, ended_concat,
    Happening.taken?, Happening.released?, Happening.started?, Happening.ended?, Option.toList,
    List.append_nil, release_kind, release_running, release_blocked]
  · exact hw.kind_eq
  · exact (hw.queue.take hready).release h hw.kind_eq hp hunreleased hgone
  · exact hw.taken_concat_nodup hready
  · exact hw.taken_concat_lt hready
  · exact fun q hq r hqr => List.mem_append_left _ (hw.taken_concat_awaits hready q hq r hqr)
  · exact hw.running_nodup
  · exact hw.mem_running
  · exact hw.ended_nodup
  · exact hw.ended_started
  · exact fun q hq => (hw.mem_blocked q hq).trans (cutOff_concat rfl q).symm

/-- A resource that is refused comes off the queue and releases nothing. What it does to the board
and to the failures is left open, since no field of the invariant is about these. -/
theorem step_refused (hw : Flow g kind hs w) {p : Nat} {rest : List Nat}
    (hready : w.ready = p :: rest) {w' : Walk} (hkind : w'.kind = w.kind)
    (hrest : w'.ready = rest) (hwaiting : w'.waiting = w.waiting)
    (hrunning : w'.running = w.running) (hblocked : w'.blocked = w.blocked) :
    Flow g kind (hs ++ [.refused p]) w' := by
  constructor
  case not_passed => intro q; simpa using hw.not_passed q
  -- Of the lists of happenings only that of what came off the queue gets longer.
  all_goals simp only [taken_concat, released_concat, started_concat, ended_concat,
    Happening.taken?, Happening.released?, Happening.started?, Happening.ended?, Option.toList,
    List.append_nil, hkind, hrunning, hblocked]
  · exact hw.kind_eq
  · exact (hw.queue.take hready).congr hrest hwaiting
  · exact hw.taken_concat_nodup hready
  · exact hw.taken_concat_lt hready
  · exact hw.taken_concat_awaits hready
  · exact hw.running_nodup
  · exact hw.mem_running
  · exact hw.ended_nodup
  · exact hw.ended_started
  · exact fun q hq => (hw.mem_blocked q hq).trans (cutOff_concat rfl q).symm

/-- A resource that is started comes off the queue and is running. It is not released before its
task has ended. -/
theorem step_started (hw : Flow g kind hs w) {p : Nat} {rest : List Nat}
    (hready : w.ready = p :: rest) :
    Flow g kind (hs ++ [.started p])
      { w with
        ready := rest
        board := starting w.kind w.board p
        running := w.running ++ [p] } := by
  have hnew := (hw.of_mem_ready hready).2.1
  have hunstarted : p ∉ started hs := fun hstart => hnew (taken_of_started hstart)
  have hunended : p ∉ ended hs := fun hend => hunstarted (hw.ended_started p hend)
  constructor
  case not_passed => intro q; simpa using hw.not_passed q
  all_goals simp only [taken_concat, released_concat, started_concat, ended_concat,
    Happening.taken?, Happening.released?, Happening.started?, Happening.ended?, Option.toList,
    List.append_nil]
  · exact hw.kind_eq
  · exact (hw.queue.take hready).congr rfl rfl
  · exact hw.taken_concat_nodup hready
  · exact hw.taken_concat_lt hready
  · exact hw.taken_concat_awaits hready
  -- What runs twice would have been started before, and so would have come off the queue before.
  · refine List.nodup_append.mpr ⟨hw.running_nodup, List.nodup_singleton p, ?_⟩
    rintro q hq _ hp rfl
    rw [List.mem_singleton] at hp
    exact hunstarted ((hw.mem_running p).mp (hp ▸ hq)).1
  · intro q
    rw [List.mem_append, List.mem_append, hw.mem_running, List.mem_singleton]
    constructor
    · rintro (⟨hstart, hend⟩ | rfl)
      · exact ⟨Or.inl hstart, hend⟩
      · exact ⟨Or.inr rfl, hunended⟩
    · rintro ⟨hstart | rfl, hend⟩
      · exact Or.inl ⟨hstart, hend⟩
      · exact Or.inr rfl
  · exact hw.ended_nodup
  · exact fun q hq => List.mem_append_left _ (hw.ended_started q hq)
  · exact fun q hq => (hw.mem_blocked q hq).trans (cutOff_concat rfl q).symm

/-- With one more task ended, no task ended twice, since the one that ended was running until
then. -/
theorem ended_concat_nodup (hw : Flow g kind hs w) {p : Nat} (hrunning : p ∈ w.running) :
    (ended hs ++ [p]).Nodup := by
  refine List.nodup_append.mpr ⟨hw.ended_nodup, List.nodup_singleton p, ?_⟩
  rintro q hq _ hp rfl
  rw [List.mem_singleton] at hp
  exact ((hw.mem_running p).mp hrunning).2 (hp ▸ hq)

/-- With one more task ended, every task that ended was started. -/
theorem ended_concat_started (hw : Flow g kind hs w) {p : Nat} (hrunning : p ∈ w.running) :
    ∀ q ∈ ended hs ++ [p], q ∈ started hs := by
  intro q hq
  rcases List.mem_append.mp hq with hq | hq
  · exact hw.ended_started q hq
  · rw [List.mem_singleton.mp hq]
    exact ((hw.mem_running p).mp hrunning).1

/-- With one more task ended, the others run on. The list has no task twice, so taking one out
takes it out. -/
theorem mem_running_erase (hw : Flow g kind hs w) {p : Nat} (q : Nat) :
    q ∈ w.running.erase p ↔ q ∈ started hs ∧ q ∉ ended hs ++ [p] := by
  rw [hw.running_nodup.mem_erase_iff, hw.mem_running, List.mem_append, List.mem_singleton]
  constructor
  · rintro ⟨hne, hstart, hend⟩
    exact ⟨hstart, fun h => h.elim hend hne⟩
  · rintro ⟨hstart, hend⟩
    exact ⟨fun hqp => hend (Or.inr hqp), hstart, fun h => hend (Or.inl h)⟩

/-- A task that succeeds is not running any more, and its resource is released. What waited for it
and for nothing else is ready then. -/
theorem step_succeeded (h : g.Coherent) (hw : Flow g kind hs w) {p : Nat}
    (hrunning : p ∈ w.running) :
    Flow g kind (hs ++ [.ended p (.ok ())])
      (release g
        { w with running := w.running.erase p, board := settled w.kind w.board p } p) := by
  have htaken := taken_of_started ((hw.mem_running p).mp hrunning).1
  have hunreleased := hw.not_released_of_running hrunning
  -- The board and the list of running tasks have no part in the queue.
  have hqueue : Queue g kind (taken hs) (released hs)
      { w with running := w.running.erase p, board := settled w.kind w.board p } :=
    hw.queue.congr rfl rfl
  constructor
  case not_passed => intro q; simpa using hw.not_passed q
  all_goals simp only [taken_concat, released_concat, started_concat, ended_concat,
    Happening.taken?, Happening.released?, Happening.started?, Happening.ended?, Option.toList,
    List.append_nil, release_kind, release_running, release_blocked]
  · exact hw.kind_eq
  · exact hqueue.release h hw.kind_eq (hw.taken_lt p htaken) hunreleased
      fun q hqp => hw.not_taken_of_awaits hunreleased hqp
  · exact hw.taken_nodup
  · exact hw.taken_lt
  · exact fun q hq r hqr => List.mem_append_left _ (hw.taken_awaits q hq r hqr)
  · exact hw.running_nodup.erase p
  · exact hw.mem_running_erase
  · exact hw.ended_concat_nodup hrunning
  · exact hw.ended_concat_started hrunning
  · exact fun q hq => (hw.mem_blocked q hq).trans (cutOff_concat rfl q).symm

/-- A failure newly blocks what waits for the failed resource, directly or not, and was
not cut off before. -/
theorem exists_fresh (h : g.Coherent) (hw : Flow g kind hs w)
    (hlength : w.board.standings.length = g.size) {p : Nat} (hrunning : p ∈ w.running)
    (error : Error) :
    ∃ fresh, Blocked g (labelAt g p) fresh (failing g w p error)
        (block g (failing g w p error) (labelAt g p)) ∧ fresh.Nodup ∧
      ∀ q, q ∈ fresh ↔ TransGen (kind.Awaits g) q p ∧ ¬ CutOff g kind hs q := by
  have hp : p < g.size := hw.taken_lt p (taken_of_started ((hw.mem_running p).mp hrunning).1)
  have hfailing : (failing g w p error).board.standings.length = g.size := by
    simpa [failing] using hlength
  obtain ⟨fresh, heffect, hnodup, hfresh⟩ := block_effect h hfailing hp
  refine ⟨fresh, heffect, hnodup, fun q => ?_⟩
  have hkind : (failing g w p error).kind = kind := hw.kind_eq
  rw [hfresh, hkind]
  refine and_congr_right fun hqp => not_congr ?_
  exact hw.mem_blocked q (lt_of_transGen_awaits h hqp).1

/-- A failure adds what waits for the failed resource to what is blocked. What is blocked is what
is cut off, before and after it. -/
theorem step_failed (h : g.Coherent) (hw : Flow g kind hs w) {p : Nat} {error : Error}
    (hlength : w.board.standings.length = g.size) (hrunning : p ∈ w.running) :
    Flow g kind (hs ++ [.ended p (.error error)])
      (block g (failing g w p error) (labelAt g p)) := by
  obtain ⟨fresh, heffect, -, hfresh⟩ := hw.exists_fresh h hlength hrunning error
  constructor
  case kind_eq => exact heffect.kind.trans hw.kind_eq
  case not_passed => intro q; simpa using hw.not_passed q
  all_goals simp only [taken_concat, released_concat, started_concat, ended_concat,
    Happening.taken?, Happening.released?, Happening.started?, Happening.ended?, Option.toList,
    List.append_nil, heffect.running, heffect.blocked]
  · exact hw.queue.congr heffect.ready heffect.waiting
  · exact hw.taken_nodup
  · exact hw.taken_lt
  · exact hw.taken_awaits
  · exact hw.running_nodup.erase p
  · exact hw.mem_running_erase
  · exact hw.ended_concat_nodup hrunning
  · exact hw.ended_concat_started hrunning
  · intro q hq
    have hblocked : labelAt g q ∈ (failing g w p error).blocked ↔ CutOff g kind hs q :=
      hw.mem_blocked q hq
    rw [cutOff_failed, List.mem_append, hblocked]
    -- The fresh ones are known by their texts here, which belong to one resource each.
    refine or_congr_right' fun hunblocked => ?_
    constructor
    · intro hmem
      obtain ⟨r, hr, hlabel⟩ := List.mem_map.mp hmem
      have hrp := ((hfresh r).mp hr).1
      rwa [← labelAt_injective h (lt_of_transGen_awaits h hrp).1 hq hlabel]
    · exact fun hqp => List.mem_map.mpr ⟨q, (hfresh q).mpr ⟨hqp, hunblocked⟩, rfl⟩

/-- A child that is noted changes the board only. -/
theorem step_recorded (hw : Flow g kind hs w) {p : Nat} {child : Resource} {b : Board} :
    Flow g kind (hs ++ [.recorded p child]) { w with board := b } := by
  constructor
  case not_passed => intro q; simpa using hw.not_passed q
  -- No list of happenings gets longer, and no field is about the board.
  all_goals simp only [taken_concat, released_concat, started_concat, ended_concat,
    Happening.taken?, Happening.released?, Happening.started?, Happening.ended?, Option.toList,
    List.append_nil]
  · exact hw.kind_eq
  · exact hw.queue.congr rfl rfl
  · exact hw.taken_nodup
  · exact hw.taken_lt
  · exact hw.taken_awaits
  · exact hw.running_nodup
  · exact hw.mem_running
  · exact hw.ended_nodup
  · exact hw.ended_started
  · exact fun q hq => (hw.mem_blocked q hq).trans (cutOff_concat rfl q).symm

/-- What is ready is not blocked. A blocked reference waits for a failure, and what is ready waits
for released resources only, so that nothing is ever passed over on the queue. -/
theorem not_blocked_of_ready (hw : Flow g kind hs w) {p : Nat} {rest : List Nat}
    (hready : w.ready = p :: rest) : labelAt g p ∉ w.blocked := by
  obtain ⟨hp, -, hdone⟩ := hw.of_mem_ready hready
  rw [hw.mem_blocked p hp]
  exact hw.not_cutOff hdone

/-- Every move keeps the invariant. The cases are those of `Effect`, and each of them is a lemma
above. -/
theorem step (h : g.Coherent) (hw : Flow g kind hs w)
    (hlength : w.board.standings.length = g.size) {e : Happening} {w' : Walk}
    (he : Effect g w e w') : Flow g kind (hs ++ [e]) w' := by
  cases he with
  | passed hready hblocked => exact absurd hblocked (hw.not_blocked_of_ready hready)
  | skipped hready _ => exact hw.step_skipped h hready
  | refused hready _ => exact hw.step_refused hready rfl rfl rfl rfl rfl
  | started hready _ => exact hw.step_started hready
  | succeeded _ hrunning => exact hw.step_succeeded h hrunning
  | failed _ hrunning => exact hw.step_failed h hlength hrunning
  | recorded _ => exact hw.step_recorded

end Flow

end Moorage.Walk
