import Moorage.Proofs.Walk.Accounting

/-!
# `Moorage.Proofs.Walk.Confluence`: the order of completion leaves no trace

Tasks run side by side and may end in any order. When the result of each task is fixed and
nothing is refused, what a walk comes to does not depend on that order.

Two runs are not compared move by move. `Passable` says without an order which resources a
walk gets past, by induction along the waits, and at the end of every run the released
resources are exactly those (`Concluded.mem_released_iff`). From there the fate of every
resource is foretold (`Concluded.holds_iff_foretold`), and the statuses and the failures
follow from the fates.

* `confluence`: the statement for two runs.
-/

set_option autoImplicit false

namespace Moorage.Walk

open Relation (TransGen)

variable {g : Graph} {kind : WalkKind} {b : Board} {outcome : Nat → Except Error Unit}
  {hs hs' : List Happening} {w w' : Walk} {p : Nat}

/-- Every task that ended has come to the result that is foreseen for it. Tasks that never started
have one too, which is not used. -/
def Foreseen (outcome : Nat → Except Error Unit) (hs : List Happening) : Prop :=
  ∀ p result, Happening.ended p result ∈ hs → result = outcome p

/-- Nothing was refused. As only a cancellation makes a walk refuse what it would have
started, this holds of every run that is not cancelled. -/
def Unrefused (hs : List Happening) : Prop := ∀ p, Happening.refused p ∉ hs

/-! ### What is bound to happen -/

/-- A walk gets past a resource when it gets past everything that the resource waits for,
and there is nothing to do for it or its task succeeds. -/
inductive Passable (g : Graph) (kind : WalkKind) (b : Board) (outcome : Nat → Except Error Unit) :
    Nat → Prop where
  | intro {p : Nat} (hp : p < g.size)
      (hawaits : ∀ q, kind.Awaits g p q → Passable g kind b outcome q)
      (hdone : kind.skips (b.status p) = true ∨ outcome p = .ok ()) : Passable g kind b outcome p

/-- The turn of a resource comes: a walk gets past everything that it waits for. -/
def Due (g : Graph) (kind : WalkKind) (b : Board) (outcome : Nat → Except Error Unit) (p : Nat) :
    Prop :=
  p < g.size ∧ ∀ q, kind.Awaits g p q → Passable g kind b outcome q

/-- The task of a resource is bound to be started and to fail. -/
def Doomed (g : Graph) (kind : WalkKind) (b : Board) (outcome : Nat → Except Error Unit)
    (p : Nat) : Prop :=
  (Due g kind b outcome p ∧ kind.skips (b.status p) = false) ∧ outcome p ≠ .ok ()

/-- The fate that a resource is bound to meet when nothing is refused. -/
def Fate.Foretold (g : Graph) (kind : WalkKind) (b : Board) (outcome : Nat → Except Error Unit)
    (p : Nat) : Fate → Prop
  | skipped => Due g kind b outcome p ∧ kind.skips (b.status p) = true
  | created => (Due g kind b outcome p ∧ kind.skips (b.status p) = false) ∧ outcome p = .ok ()
  | failed => Doomed g kind b outcome p
  | blocked => ∃ f, Doomed g kind b outcome f ∧ TransGen (kind.Awaits g) p f
  | cancelled | unreached => False

/-- A walk that was run to its end over a graph whose parts fit together, with the results
that were foreseen and without refusals. -/
structure Concluded (g : Graph) (kind : WalkKind) (b : Board)
    (outcome : Nat → Except Error Unit) (hs : List Happening) (w : Walk) : Prop where
  coherent : g.Coherent
  reached : Reached g kind b hs w
  finished : Over w
  foreseen : Foreseen outcome hs
  unrefused : Unrefused hs

namespace Concluded

/-! ### What is bound to happen has happened at the end -/

/-- A walk gets past whatever it released. By induction along the waits, as what was released
waited for released resources only. -/
theorem passable_of_released (hc : Concluded g kind b outcome hs w) (hp : p ∈ released hs) :
    Passable g kind b outcome p := by
  have hf := hc.reached.flow
  -- What a released resource waits for was released too, and the waits end somewhere.
  induction p using (@awaits_wellFounded g kind hc.coherent).induction with
  | _ p ih =>
      have htaken := hf.taken_of_released hp
      refine .intro (hf.taken_lt p htaken)
        (fun q hpq => ih q hpq (hf.taken_awaits p htaken q hpq)) ?_
      rcases mem_released.mp hp with hskipped | hend
      · exact Or.inl (hc.reached.marks.skipped p hskipped)
      · exact Or.inr (hc.foreseen p _ hend).symm

/-- What a walk gets past was released at its end. By induction along the waits: at the end
nothing is left that could still be taken off the queue. -/
theorem released_of_passable (hc : Concluded g kind b outcome hs w)
    (hp : Passable g kind b outcome p) : p ∈ released hs := by
  induction hp with
  | @intro p hlt _ hdone ih =>
      have htaken := hc.reached.flow.taken_of_released_all hc.finished.1 hlt ih
      rcases hc.reached.flow.of_mem_taken htaken with hskipped | hrefused | hstart
      · exact mem_released.mpr (Or.inl hskipped)
      · exact absurd hrefused (hc.unrefused p)
      · -- It was started, so there was something to do, and its task has succeeded.
        obtain ⟨result, hend⟩ := mem_ended.mp (hc.reached.ended_of_started hc.finished hstart)
        rcases hdone with hskips | hok
        · rw [hc.reached.marks.started p hstart] at hskips
          cases hskips
        · rw [hc.foreseen p result hend, hok] at hend
          exact mem_released.mpr (Or.inr hend)

/-- When a walk is over, what it released is what it could get past. Nothing in this mentions the
order in which tasks ended. -/
theorem mem_released_iff (hc : Concluded g kind b outcome hs w) :
    p ∈ released hs ↔ Passable g kind b outcome p :=
  ⟨hc.passable_of_released, hc.released_of_passable⟩

/-- What came off the queue is what is due: everything that it waits for can be got past. -/
theorem mem_taken_iff (hc : Concluded g kind b outcome hs w) :
    p ∈ taken hs ↔ Due g kind b outcome p := by
  constructor
  · intro hp
    exact ⟨hc.reached.flow.taken_lt p hp, fun q hpq =>
      hc.passable_of_released (hc.reached.flow.taken_awaits p hp q hpq)⟩
  · rintro ⟨hlt, hdue⟩
    exact hc.reached.flow.taken_of_released_all hc.finished.1 hlt fun q hpq =>
      hc.released_of_passable (hdue q hpq)

/-- What was skipped is what is due and leaves nothing to do. No resource is refused here, so the
two ways to come off the queue are told apart by the status. -/
theorem mem_skipped_iff (hc : Concluded g kind b outcome hs w) :
    Happening.skipped p ∈ hs ↔ Due g kind b outcome p ∧ kind.skips (b.status p) = true := by
  rw [← hc.mem_taken_iff]
  constructor
  · exact fun hp => ⟨Flow.taken_of_skipped hp, hc.reached.marks.skipped p hp⟩
  · rintro ⟨htaken, hskips⟩
    rcases hc.reached.flow.of_mem_taken htaken with hskipped | hrefused | hstart
    · exact hskipped
    · exact absurd hrefused (hc.unrefused p)
    · rw [hc.reached.marks.started p hstart] at hskips
      cases hskips

/-- What was started is what is due and leaves something to do. -/
theorem mem_started_iff (hc : Concluded g kind b outcome hs w) :
    p ∈ started hs ↔ Due g kind b outcome p ∧ kind.skips (b.status p) = false := by
  rw [← hc.mem_taken_iff]
  constructor
  · exact fun hp => ⟨Flow.taken_of_started hp, hc.reached.marks.started p hp⟩
  · rintro ⟨htaken, hskips⟩
    rcases hc.reached.flow.of_mem_taken htaken with hskipped | hrefused | hstart
    · rw [hc.reached.marks.skipped p hskipped] at hskips
      cases hskips
    · exact absurd hrefused (hc.unrefused p)
    · exact hstart

/-- A task has ended with a result exactly if it was started and the result is the one that
was foreseen. -/
theorem mem_ended_iff (hc : Concluded g kind b outcome hs w) {result : Except Error Unit} :
    Happening.ended p result ∈ hs ↔ p ∈ started hs ∧ outcome p = result := by
  constructor
  · intro hend
    exact ⟨hc.reached.flow.started_of_ended hend, (hc.foreseen p result hend).symm⟩
  · rintro ⟨hstart, rfl⟩
    obtain ⟨result, hend⟩ := mem_ended.mp (hc.reached.ended_of_started hc.finished hstart)
    exact hc.foreseen p result hend ▸ hend

/-- What failed itself is what is doomed: it is due, and its task comes to a failure. -/
theorem mem_failed_iff (hc : Concluded g kind b outcome hs w) :
    p ∈ failed hs ↔ Doomed g kind b outcome p := by
  unfold Doomed
  rw [← hc.mem_started_iff, mem_failed]
  simp only [hc.mem_ended_iff, exists_and_left]
  refine and_congr_right fun _ => ?_
  cases outcome p with
  | ok _ => simp
  | error error => simp

/-- At the end every resource has met the fate that was foretold. What is foretold mentions the
board and the results, and no order. -/
theorem holds_iff_foretold (hc : Concluded g kind b outcome hs w) (hp : p < g.size)
    (fate : Fate) : fate.Holds g kind hs p ↔ fate.Foretold g kind b outcome p := by
  cases fate with
  | skipped => exact hc.mem_skipped_iff
  | created => exact hc.mem_ended_iff.trans (and_congr_left' hc.mem_started_iff)
  | failed => exact mem_failed.symm.trans hc.mem_failed_iff
  | blocked => exact exists_congr fun f => and_congr_left' hc.mem_failed_iff
  | cancelled => exact iff_of_false (hc.unrefused p) not_false
  | unreached =>
      -- Nothing is left out but for a refusal further along the waits.
      refine iff_of_false (fun hout => ?_) not_false
      obtain ⟨q, -, hrefused⟩ :=
        hc.reached.refused_of_unreached hc.coherent hc.finished hp hout
      exact hc.unrefused q hrefused

/-! ### Two runs -/

/-- Two runs let every resource meet the same fate, as both are foretold alike. -/
theorem holds_iff (hc : Concluded g kind b outcome hs w)
    (hc' : Concluded g kind b outcome hs' w') (hp : p < g.size) (fate : Fate) :
    fate.Holds g kind hs p ↔ fate.Holds g kind hs' p :=
  (hc.holds_iff_foretold hp fate).trans (hc'.holds_iff_foretold hp fate).symm

end Concluded

/-! ### Statuses -/

/-- What was neither started nor blocked keeps its status. For the fates that leave no trace on
the board. -/
theorem Reached.kept_of_fate (hr : Reached g kind b hs w) {fate : Fate}
    (hp : fate.Holds g kind hs p) (hstarted : fate.isStarted = false) (hblocked : fate ≠ .blocked) :
    w.board.status p = b.status p := by
  refine hr.marks.kept p (fun hstart => ?_) fun hdragged => ?_
  · rw [(Fate.mem_started_iff hr.flow hp).mp hstart] at hstarted
    cases hstarted
  · exact hblocked (Fate.unique hr.flow hp hdragged.1)

/-- Runs from one board leave a resource in the same status if it meets the same fate in
both. -/
theorem Reached.status_eq_of_fate (hr : Reached g kind b hs w) (hr' : Reached g kind b hs' w')
    {fate : Fate} (hp : fate.Holds g kind hs p) (hp' : fate.Holds g kind hs' p) :
    w.board.status p = w'.board.status p := by
  cases fate with
  | created => exact (hr.marks.succeeded p hp).trans (hr'.marks.succeeded p hp').symm
  | failed =>
      exact (hr.marks.failed p (mem_failed.mpr hp)).trans
        (hr'.marks.failed p (mem_failed.mpr hp')).symm
  | blocked =>
      -- What is cut off is dragged along in both runs, or keeps its status in both.
      by_cases hdrags : kind = .apply ∧ b.status p ≠ .disabled
      · exact (hr.marks.dragged p ⟨hp, hdrags⟩).trans (hr'.marks.dragged p ⟨hp', hdrags⟩).symm
      · have hkept : ∀ {hs w}, Reached g kind b hs w → CutOff g kind hs p →
            w.board.status p = b.status p := by
          intro hs w hr hcut
          refine hr.marks.kept p (fun hstart => ?_) fun hdragged => hdrags hdragged.2
          exact hr.flow.not_cutOff_of_taken (Flow.taken_of_started hstart) hcut
        exact (hkept hr hp).trans (hkept hr' hp').symm
  | skipped | cancelled | unreached =>
      exact (hr.kept_of_fate hp rfl Fate.noConfusion).trans
        (hr'.kept_of_fate hp' rfl Fate.noConfusion).symm

/-! ### Reports -/

/-- Two errors are the same, or both are failures of a dependency of one resource, where
the dependency may differ. -/
def SameButCause (error error' : Error) : Prop :=
  error = error' ∨ ∃ label cause cause',
    error = .dependencyFailed label cause ∧ error' = .dependencyFailed label cause'

namespace Concluded

/-- What one run has a reason to report, the other has a reason to report too. The reasons are of
one sort, while the failure that dragged a resource along may be another one. -/
theorem exists_reason (hc : Concluded g kind b outcome hs w)
    (hc' : Concluded g kind b outcome hs' w') {error : Error}
    (hp : Reason g kind b hs p error) : ∃ error', Reason g kind b hs' p error' := by
  have hfate := hc.holds_iff hc' (hp.lt hc.coherent hc.reached.flow)
  cases hp with
  | own hend =>
      obtain ⟨error', hend'⟩ := (hfate .failed).mp ⟨_, hend⟩
      exact ⟨error', .own hend'⟩
  | refused hrefused => exact absurd hrefused (hc.unrefused p)
  | dragged hdragged _ _ =>
      obtain ⟨f, hfail, hpf⟩ := (hfate .blocked).mp hdragged.1
      exact ⟨_, .dragged ⟨⟨f, hfail, hpf⟩, hdragged.2⟩ hfail hpf⟩

/-- The reasons that two runs have to report a resource come with the same error, but for
the dependency that it may name. -/
theorem sameButCause (hc : Concluded g kind b outcome hs w)
    (hc' : Concluded g kind b outcome hs' w') {error error' : Error}
    (hp : Reason g kind b hs p error) (hp' : Reason g kind b hs' p error') :
    SameButCause error error' := by
  have hfate := hc.holds_iff hc' (hp.lt hc.coherent hc.reached.flow) .blocked
  -- What was cut off in either run was cut off in the other, and then its task never ran.
  have hran : ∀ {e}, Happening.ended p (.error e) ∈ hs → ¬ CutOff g kind hs p := fun hend =>
    hc.reached.flow.not_cutOff_of_taken (hc.reached.flow.taken_of_failed (mem_failed.mpr ⟨_, hend⟩))
  have hran' : ∀ {e}, Happening.ended p (.error e) ∈ hs' → ¬ CutOff g kind hs' p := fun hend =>
    hc'.reached.flow.not_cutOff_of_taken
      (hc'.reached.flow.taken_of_failed (mem_failed.mpr ⟨_, hend⟩))
  cases hp with
  | own hend =>
      cases hp' with
      | own hend' =>
          have heq := (hc.foreseen p _ hend).trans (hc'.foreseen p _ hend').symm
          exact Or.inl (Except.error.inj heq)
      | refused hrefused => exact absurd hrefused (hc'.unrefused p)
      | dragged hdragged _ _ => exact absurd (hfate.mpr hdragged.1) (hran hend)
  | refused hrefused => exact absurd hrefused (hc.unrefused p)
  | dragged hdragged _ _ =>
      cases hp' with
      | own hend' => exact absurd (hfate.mp hdragged.1) (hran' hend')
      | refused hrefused => exact absurd hrefused (hc'.unrefused p)
      | dragged _ _ _ => exact Or.inr ⟨_, _, _, rfl, rfl⟩

/-- What one run reports, the other reports too. -/
theorem mem_reported (hc : Concluded g kind b outcome hs w)
    (hc' : Concluded g kind b outcome hs' w') {label : String}
    (hlabel : label ∈ w.failures.map Prod.fst) : label ∈ w'.failures.map Prod.fst := by
  obtain ⟨entry, hentry, rfl⟩ := List.mem_map.mp hlabel
  obtain ⟨p, hp, hreason⟩ := hc.reached.ledger.explained entry hentry
  obtain ⟨error', hreason'⟩ := hc.exists_reason hc' hreason
  obtain ⟨reported, hmem⟩ := hc'.reached.ledger.entered p error' hreason'
  exact List.mem_map.mpr ⟨_, hmem, hp.symm⟩

/-- Two runs report the same references, each of them once. The order is that of the failures, and
may differ. -/
theorem reported_perm (hc : Concluded g kind b outcome hs w)
    (hc' : Concluded g kind b outcome hs' w') :
    (w.failures.map Prod.fst).Perm (w'.failures.map Prod.fst) :=
  (List.perm_ext_iff_of_nodup hc.reached.ledger.nodup hc'.reached.ledger.nodup).mpr fun _ =>
    ⟨hc.mem_reported hc', hc'.mem_reported hc⟩

/-- Two runs start the same tasks, each of them once. The order may differ with that of
completion. -/
theorem started_perm (hc : Concluded g kind b outcome hs w)
    (hc' : Concluded g kind b outcome hs' w') : (started hs).Perm (started hs') := by
  have hnodup := (started_sublist_taken hs).nodup hc.reached.flow.taken_nodup
  have hnodup' := (started_sublist_taken hs').nodup hc'.reached.flow.taken_nodup
  refine (List.perm_ext_iff_of_nodup hnodup hnodup').mpr fun p => ?_
  rw [hc.mem_started_iff, hc'.mem_started_iff]

/-- Two runs leave every resource in the same status, by its fate and by the status that it had
before. -/
theorem status_eq (hc : Concluded g kind b outcome hs w)
    (hc' : Concluded g kind b outcome hs' w') (p : Nat) :
    w.board.status p = w'.board.status p := by
  by_cases hp : p < g.size
  · obtain ⟨fate, hfate⟩ := hc.reached.exists_fate hc.finished p
    exact hc.reached.status_eq_of_fate hc'.reached hfate ((hc.holds_iff hc' hp fate).mp hfate)
  · -- Behind the last resource no board has an entry.
    have hle := Nat.le_of_not_lt hp
    rw [Board.status_of_length_le (hc.reached.marks.length ▸ hle),
      Board.status_of_length_le (hc'.reached.marks.length ▸ hle)]

/-- The entries of two runs for one reference have the same error, but for the dependency
that it may name. -/
theorem sameButCause_of_entry (hc : Concluded g kind b outcome hs w)
    (hc' : Concluded g kind b outcome hs' w') {entry entry' : String × Error}
    (hentry : entry ∈ w.failures) (hentry' : entry' ∈ w'.failures) (hlabel : entry.1 = entry'.1) :
    SameButCause entry.2 entry'.2 := by
  obtain ⟨p, hp, hreason⟩ := hc.reached.ledger.explained entry hentry
  obtain ⟨q, hq, hreason'⟩ := hc'.reached.ledger.explained entry' hentry'
  -- Both entries explain themselves by a resource, and by their reference it is the same.
  have hpq : p = q := labelAt_injective hc.coherent (hreason.lt hc.coherent hc.reached.flow)
    (hreason'.lt hc.coherent hc'.reached.flow) (hp.symm.trans (hlabel.trans hq))
  exact hc.sameButCause hc' hreason (hpq ▸ hreason')

end Concluded

/-- Two runs of a walk from one board, both over, without refusals and with the same result
for each task, come to the same in whatever order the tasks ended: every resource has the
same status, the same tasks were started, and the same references are reported, with the
same errors but for the dependency that a dependent failure names. -/
theorem confluence {registry : Registry} (hg : g.BuiltFrom registry)
    (run : Run g kind b hs w) (hover : Over w) (hforeseen : Foreseen outcome hs)
    (hunrefused : Unrefused hs) (run' : Run g kind b hs' w') (hover' : Over w')
    (hforeseen' : Foreseen outcome hs') (hunrefused' : Unrefused hs') :
    (∀ p, w.board.status p = w'.board.status p) ∧
    (started hs).Perm (started hs') ∧
    (w.failures.map Prod.fst).Perm (w'.failures.map Prod.fst) ∧
    ∀ entry ∈ w.failures, ∀ entry' ∈ w'.failures, entry.1 = entry'.1 →
      SameButCause entry.2 entry'.2 := by
  have h := hg.coherent
  have hc : Concluded g kind b outcome hs w := ⟨h, run.reached h, hover, hforeseen, hunrefused⟩
  have hc' : Concluded g kind b outcome hs' w' :=
    ⟨h, run'.reached h, hover', hforeseen', hunrefused'⟩
  exact ⟨hc.status_eq hc', hc.started_perm hc', hc.reported_perm hc',
    fun _ hentry _ hentry' => hc.sameButCause_of_entry hc' hentry hentry'⟩

/-- One of two networks cannot be created. Whether the other one is there before or after
that, their container fails. -/
theorem confluence_webOnTwoNets : ∃ hs w hs' w',
    Run .webOnTwoNets .apply (.ofResources Graph.webOnTwoNets.resources) hs w ∧
      Run .webOnTwoNets .apply (.ofResources Graph.webOnTwoNets.resources) hs' w' ∧
      ended hs = [0, 1] ∧ ended hs' = [1, 0] ∧ w.board.status 2 = .failed ∧
      w.board.status 2 = w'.board.status 2 := by
  let error : Error := .engine "create network" (.reported "pool overlaps")
  let outcome : Nat → Except Error Unit := fun p => if p = 1 then .error error else .ok ()
  have hbegin : Run .webOnTwoNets .apply (.ofResources Graph.webOnTwoNets.resources) [] _ :=
    .begin rfl
  -- Both networks are started at once, and what differs is the order in which they end.
  have hstarted := (hbegin.next false rfl).next false rfl
  have hrun : Run .webOnTwoNets .apply _
      [.started 1, .started 0, .ended 0 (outcome 0), .ended 1 (outcome 1)] _ :=
    (hstarted.finish (outcome 0) rfl (List.mem_cons_of_mem _ List.mem_cons_self)).finish
      (outcome 1) rfl List.mem_cons_self
  have hrun' : Run .webOnTwoNets .apply _
      [.started 1, .started 0, .ended 1 (outcome 1), .ended 0 (outcome 0)] _ :=
    (hstarted.finish (outcome 1) rfl List.mem_cons_self).finish
      (outcome 0) rfl List.mem_cons_self
  have hforeseen : Foreseen outcome
      [.started 1, .started 0, .ended 0 (outcome 0), .ended 1 (outcome 1)] := by
    intro p result hmem
    simp only [List.mem_cons, List.not_mem_nil, reduceCtorEq, false_or, or_false,
      Happening.ended.injEq] at hmem
    obtain ⟨rfl, rfl⟩ | ⟨rfl, rfl⟩ := hmem <;> rfl
  have hforeseen' : Foreseen outcome
      [.started 1, .started 0, .ended 1 (outcome 1), .ended 0 (outcome 0)] :=
    fun p result hmem => hforeseen p result (by simpa [or_comm] using hmem)
  have hsame := confluence Graph.webOnTwoNets_built hrun ⟨rfl, rfl⟩ hforeseen
    (by simp [Unrefused]) hrun' ⟨rfl, rfl⟩ hforeseen' (by simp [Unrefused])
  exact ⟨_, _, _, _, hrun, hrun', rfl, rfl, rfl, hsame.1 2⟩

end Moorage.Walk
