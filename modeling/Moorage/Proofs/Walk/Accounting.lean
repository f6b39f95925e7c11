import Moorage.Proofs.Walk.Completion

/-!
# `Moorage.Proofs.Walk.Accounting`: what became of every resource

When a walk is over, each resource has met one of six fates, and only one
(`Reached.existsUnique_fate`). The three traces that a resource may leave in a run, that it came
off the queue, that its task was started and that it was released, tell the fates apart, except for
two: what was not reached is cut off by a failure or not.

A resource is skipped, because it was done with before or is disabled; its task succeeds or fails;
it is refused after a cancellation; or it is not reached at all. The last of these is two fates,
since what is cut off by a failure fails with it, and what waits for something refused keeps its
status.

`accounting` says what each fate means for the status of the resource and for the list of failures,
when resources are applied. That the list has nothing else in it is part of it: every entry is one
of a resource whose fate has an entry.
-/

set_option autoImplicit false

namespace Moorage.Walk

open Relation (TransGen)

variable {g : Graph} {kind : WalkKind} {b : Board} {hs : List Happening} {w : Walk}

/-- What becomes of a resource in a walk. The names are those of a walk that applies. -/
inductive Fate where
  | skipped
  | created
  | failed
  | blocked
  | cancelled
  | unreached
  deriving DecidableEq, Repr

namespace Fate

/-- The resource at a position has met a fate. The first five are told by what has happened, and
the last by what has not. -/
def Holds (g : Graph) (kind : WalkKind) (hs : List Happening) (p : Nat) : Fate → Prop
  | skipped => Happening.skipped p ∈ hs
  | created => Happening.ended p (.ok ()) ∈ hs
  | failed => ∃ error, Happening.ended p (.error error) ∈ hs
  | blocked => CutOff g kind hs p
  | cancelled => Happening.refused p ∈ hs
  | unreached => p ∉ taken hs ∧ ¬ CutOff g kind hs p

/-- The status that a fate leaves a resource in that had a status before, when resources
are applied. -/
def status (before : Status) : Fate → Status
  | created => .applied
  | failed => .failed
  | blocked => if before = .disabled then .disabled else .failed
  | skipped | cancelled | unreached => before

/-- A resource with this fate came off the queue. Those that were not reached never did. -/
def isTaken : Fate → Bool
  | blocked | unreached => false
  | _ => true

/-- The task of a resource with this fate was started. -/
def isStarted : Fate → Bool
  | created | failed => true
  | _ => false

/-- A resource with this fate holds up no other. What waits for it may come off the queue next. -/
def isReleased : Fate → Bool
  | skipped | created => true
  | _ => false

/-! ### Fates and their traces -/

variable {fate : Fate} {p : Nat}

/-- Whether a resource came off the queue is told by its fate. -/
theorem mem_taken_iff (hf : Flow g kind hs w) (hp : fate.Holds g kind hs p) :
    p ∈ taken hs ↔ fate.isTaken = true := by
  cases fate with
  | skipped => exact iff_of_true (Flow.taken_of_skipped hp) rfl
  | created => exact iff_of_true (Flow.taken_of_started (hf.started_of_ended hp)) rfl
  | failed =>
      obtain ⟨error, hend⟩ := hp
      exact iff_of_true (Flow.taken_of_started (hf.started_of_ended hend)) rfl
  | blocked =>
      exact iff_of_false (fun htaken => hf.not_cutOff_of_taken htaken hp) Bool.false_ne_true
  | cancelled => exact iff_of_true (Flow.taken_of_refused hp) rfl
  | unreached => exact iff_of_false hp.1 Bool.false_ne_true

/-- Whether a task was started is told by the fate of its resource. -/
theorem mem_started_iff (hf : Flow g kind hs w) (hp : fate.Holds g kind hs p) :
    p ∈ started hs ↔ fate.isStarted = true := by
  have htaken := mem_taken_iff hf hp
  have hunstarted : fate.isTaken = false → p ∉ started hs := by
    intro hnot hstart
    rw [htaken.mp (Flow.taken_of_started hstart)] at hnot
    cases hnot
  cases fate with
  | skipped =>
      exact iff_of_false (fun hstart => hf.not_skipped_of_started hstart hp) Bool.false_ne_true
  | created => exact iff_of_true (hf.started_of_ended hp) rfl
  | failed =>
      obtain ⟨error, hend⟩ := hp
      exact iff_of_true (hf.started_of_ended hend) rfl
  | cancelled =>
      exact iff_of_false (fun hstart => hf.not_refused_of_started hstart hp) Bool.false_ne_true
  | blocked | unreached => exact iff_of_false (hunstarted rfl) Bool.false_ne_true

/-- Whether a resource was released is told by its fate. The fates that say so are those which
others could go on from. -/
theorem mem_released_iff (hf : Flow g kind hs w) (hp : fate.Holds g kind hs p) :
    p ∈ released hs ↔ fate.isReleased = true := by
  have htaken := mem_taken_iff hf hp
  -- What never came off the queue was not released either.
  have hunreleased : fate.isTaken = false → p ∉ released hs := by
    intro hnot hrel
    rw [htaken.mp (hf.taken_of_released hrel)] at hnot
    cases hnot
  cases fate with
  | skipped => exact iff_of_true (mem_released.mpr (Or.inl hp)) rfl
  | created => exact iff_of_true (mem_released.mpr (Or.inr hp)) rfl
  | failed =>
      refine iff_of_false (fun hrel => ?_) Bool.false_ne_true
      exact hf.not_failed_of_released hrel (mem_failed.mpr hp)
  | cancelled =>
      refine iff_of_false (fun hrel => ?_) Bool.false_ne_true
      rcases mem_released.mp hrel with hskipped | hend
      · exact hf.not_refused_of_skipped hskipped hp
      · exact hf.not_refused_of_started (hf.started_of_ended hend) hp
  | blocked | unreached => exact iff_of_false (hunreleased rfl) Bool.false_ne_true

/-- No resource meets two fates. The traces of a fate tell them apart, and the two that leave none
differ by a failure in front of them. -/
theorem unique (hf : Flow g kind hs w) {fate' : Fate} (hp : fate.Holds g kind hs p)
    (hp' : fate'.Holds g kind hs p) : fate = fate' := by
  have htaken := (mem_taken_iff hf hp).symm.trans (mem_taken_iff hf hp')
  have hstarted := (mem_started_iff hf hp).symm.trans (mem_started_iff hf hp')
  have hreleased := (mem_released_iff hf hp).symm.trans (mem_released_iff hf hp')
  rw [← Bool.eq_iff_iff] at htaken hstarted hreleased
  -- The traces leave only the blocked and the unreached to be told apart.
  by_cases hcut : CutOff g kind hs p
  · have hblocked : ∀ f : Fate, f.Holds g kind hs p → f.isTaken = false → f = .blocked := by
      intro f hf hnot
      cases f with
      | blocked => rfl
      | unreached => exact absurd hcut hf.2
      | _ => cases hnot
    have hnot : fate.isTaken = false := by
      rw [← Bool.not_eq_true, ← mem_taken_iff hf hp]
      exact fun ht => hf.not_cutOff_of_taken ht hcut
    rw [hblocked fate hp hnot, hblocked fate' hp' (htaken ▸ hnot)]
  · cases fate <;> cases fate' <;> first | rfl | contradiction

end Fate

namespace Reached

/-- At the end of a walk every resource has met a fate. While a walk is under way a resource may
have met none, because its task still runs. -/
theorem exists_fate (hr : Reached g kind b hs w) (hover : Over w) (p : Nat) :
    ∃ fate : Fate, fate.Holds g kind hs p := by
  by_cases htaken : p ∈ taken hs
  · rcases hr.flow.of_mem_taken htaken with hskipped | hrefused | hstart
    · exact ⟨.skipped, hskipped⟩
    · exact ⟨.cancelled, hrefused⟩
    · obtain ⟨outcome, hend⟩ := mem_ended.mp (hr.ended_of_started hover hstart)
      cases outcome with
      | ok _ => exact ⟨.created, hend⟩
      | error error => exact ⟨.failed, error, hend⟩
  · by_cases hcut : CutOff g kind hs p
    · exact ⟨.blocked, hcut⟩
    · exact ⟨.unreached, htaken, hcut⟩

/-- At the end of a walk every resource has met exactly one fate, so that all of them are
accounted for. -/
theorem existsUnique_fate (hr : Reached g kind b hs w) (hover : Over w) (p : Nat) :
    ∃! fate : Fate, fate.Holds g kind hs p := by
  obtain ⟨fate, hfate⟩ := hr.exists_fate hover p
  exact ⟨fate, hfate, fun fate' hfate' => Fate.unique hr.flow hfate' hfate⟩

/-- The fate of a resource decides its status, together with the one that it had before. -/
theorem status_of_fate (hr : Reached g .apply b hs w) {p : Nat} {fate : Fate}
    (hp : fate.Holds g .apply hs p) : w.board.status p = fate.status (b.status p) := by
  have hstarted := Fate.mem_started_iff hr.flow hp
  have htaken := Fate.mem_taken_iff hr.flow hp
  -- What was neither started nor dragged along has the status that it had before.
  have hkept : fate.isStarted = false → ¬ Dragged g .apply b hs p →
      w.board.status p = b.status p := by
    intro hnot hfree
    refine hr.marks.kept p (fun hstart => ?_) hfree
    rw [hstarted.mp hstart] at hnot
    cases hnot
  have hfree : fate.isTaken = true → ¬ Dragged g .apply b hs p :=
    fun ht hdrag => hr.flow.not_cutOff_of_taken (htaken.mpr ht) hdrag.1
  cases fate with
  | skipped => exact hkept rfl (hfree rfl)
  | created => exact hr.marks.succeeded p hp
  | failed => exact hr.marks.failed p (mem_failed.mpr hp)
  -- A blocked resource fails as well, unless it is disabled.
  | blocked =>
      show w.board.status p = if b.status p = .disabled then .disabled else .failed
      by_cases hdisabled : b.status p = .disabled
      · rw [if_pos hdisabled, hkept rfl fun hdrag => hdrag.2.2 hdisabled, hdisabled]
      · rw [if_neg hdisabled]
        exact hr.marks.dragged p ⟨hp, rfl, hdisabled⟩
  | cancelled => exact hkept rfl (hfree rfl)
  | unreached => exact hkept rfl fun hdrag => hp.2 hdrag.1

/-- A resource is not reached only if something that it waits for, directly or not, was
refused: of what it waits for directly something was not released, which then was refused,
or was not reached either. -/
theorem refused_of_unreached (h : g.Coherent) (hr : Reached g kind b hs w) (hover : Over w)
    {p : Nat} (hlt : p < g.size) (hp : Fate.unreached.Holds g kind hs p) :
    ∃ q, TransGen (kind.Awaits g) p q ∧ Happening.refused q ∈ hs := by
  induction p using (@awaits_wellFounded g kind h).induction with
  | _ p ih =>
      obtain ⟨hnew, hfree⟩ := hp
      -- Otherwise it would have come off the queue.
      obtain ⟨q, hpq, hunreleased⟩ : ∃ q, kind.Awaits g p q ∧ q ∉ released hs := by
        by_contra hall
        push Not at hall
        exact hnew (hr.flow.taken_of_released_all hover.1 hlt hall)
      have hqlt := (lt_of_awaits h hpq).2
      obtain ⟨fate, hq⟩ := hr.exists_fate hover q
      have hnot := mt (Fate.mem_released_iff hr.flow hq).mpr hunreleased
      cases fate with
      | skipped => exact absurd rfl hnot
      | created => exact absurd rfl hnot
      | failed =>
          -- A failure before `p` would cut it off, and so would one further away.
          exact absurd ⟨q, mem_failed.mpr hq, .single hpq⟩ hfree
      | blocked =>
          obtain ⟨f, hfail, hqf⟩ := hq
          exact absurd ⟨f, hfail, .head hpq hqf⟩ hfree
      | cancelled => exact ⟨q, .single hpq, hq⟩
      | unreached =>
          obtain ⟨r, hqr, hrefused⟩ := ih q hpq hqlt hq
          exact ⟨r, .head hpq hqr, hrefused⟩

/-- What has a reason to be reported has an entry, whose error is one that the resource
has a reason for. -/
theorem exists_entry (h : g.Coherent) (hr : Reached g kind b hs w) {p : Nat} {error : Error}
    (hp : Reason g kind b hs p error) :
    ∃ error', (labelAt g p, error') ∈ w.failures ∧ Reason g kind b hs p error' := by
  obtain ⟨error', hmem⟩ := hr.ledger.entered p error hp
  obtain ⟨q, hlabel, hwhy⟩ := hr.ledger.explained _ hmem
  have hpq : p = q := labelAt_injective h (hp.lt h hr.flow) (hwhy.lt h hr.flow) hlabel
  exact ⟨error', hmem, hpq ▸ hwhy⟩

/-- What failed itself is reported with its own error, and not with that of another resource which
failed in front of it. -/
theorem mem_failures_of_ended (h : g.Coherent) (hr : Reached g kind b hs w) {p : Nat}
    {error : Error} (hend : Happening.ended p (.error error) ∈ hs) :
    (labelAt g p, error) ∈ w.failures := by
  have hstart := hr.flow.started_of_ended hend
  obtain ⟨error', hmem, hwhy⟩ := hr.exists_entry h (.own hend)
  cases hwhy with
  | own hend' =>
      cases hr.flow.outcome_unique hend hend'
      exact hmem
  | refused hrefused => exact absurd hrefused (hr.flow.not_refused_of_started hstart)
  | dragged hdragged _ _ =>
      exact absurd hdragged.1 (hr.flow.not_cutOff_of_taken (Flow.taken_of_started hstart))

/-- What was refused is reported as cancelled, with the verb of the walk. -/
theorem mem_failures_of_refused (h : g.Coherent) (hr : Reached g kind b hs w) {p : Nat}
    (hrefused : Happening.refused p ∈ hs) :
    (labelAt g p, .cancelled (labelAt g p) kind.verb) ∈ w.failures := by
  have htaken : p ∈ taken hs := Flow.taken_of_refused hrefused
  obtain ⟨error', hmem, hwhy⟩ := hr.exists_entry h (.refused hrefused)
  cases hwhy with
  | own hend =>
      have hstart := hr.flow.started_of_ended hend
      exact absurd hrefused (hr.flow.not_refused_of_started hstart)
  | refused _ => exact hmem
  | dragged hdragged _ _ => exact absurd hdragged.1 (hr.flow.not_cutOff_of_taken htaken)

/-- What is dragged along is reported, for something that failed itself. There may be several such
failures, and the entry names one of them. -/
theorem mem_failures_of_dragged (h : g.Coherent) (hr : Reached g kind b hs w) {p : Nat}
    (hp : Dragged g kind b hs p) :
    ∃ f, f ∈ failed hs ∧ TransGen (kind.Awaits g) p f ∧
      (labelAt g p, .dependencyFailed (labelAt g p) (labelAt g f)) ∈ w.failures := by
  obtain ⟨f, hfail, hpf⟩ := hp.1
  obtain ⟨error, hmem, hwhy⟩ := hr.exists_entry h (.dragged hp hfail hpf)
  cases hwhy with
  | own hend =>
      have htaken := Flow.taken_of_started (hr.flow.started_of_ended hend)
      exact absurd hp.1 (hr.flow.not_cutOff_of_taken htaken)
  | refused hrefused =>
      have htaken : p ∈ taken hs := Flow.taken_of_refused hrefused
      exact absurd hp.1 (hr.flow.not_cutOff_of_taken htaken)
  | dragged _ hfail' hpf' => exact ⟨_, hfail', hpf', hmem⟩

end Reached

/-- The account of a walk that applied resources: every resource has met exactly one fate,
which decides its status, and the list of failures has one entry for each resource that
failed itself, for each blocked one that was not disabled and for each cancelled one, and
no other entry. -/
structure Accounted (g : Graph) (b : Board) (hs : List Happening) (w : Walk) : Prop where
  fate : ∀ p < g.size, ∃! fate : Fate, fate.Holds g .apply hs p
  status : ∀ p < g.size, ∀ fate : Fate, fate.Holds g .apply hs p →
    w.board.status p = fate.status (b.status p)
  skipped : ∀ p, Fate.skipped.Holds g .apply hs p →
    b.status p = .applied ∨ b.status p = .disabled
  cancelled : ∀ p, Fate.cancelled.Holds g .apply hs p → p ∉ started hs
  unreached : ∀ p < g.size, Fate.unreached.Holds g .apply hs p →
    ∃ q, TransGen g.DependsOn p q ∧ Fate.cancelled.Holds g .apply hs q
  result : w.result = .ok () ∧ w.failures = [] ∨ w.result = .error (.execution w.failures)
  nodup : (w.failures.map Prod.fst).Nodup
  ownEntry : ∀ p error, Happening.ended p (.error error) ∈ hs →
    (labelAt g p, error) ∈ w.failures
  blockedEntry : ∀ p, Fate.blocked.Holds g .apply hs p → b.status p ≠ .disabled →
    ∃ f, Fate.failed.Holds g .apply hs f ∧ TransGen g.DependsOn p f ∧
      (labelAt g p, .dependencyFailed (labelAt g p) (labelAt g f)) ∈ w.failures
  cancelledEntry : ∀ p, Fate.cancelled.Holds g .apply hs p →
    (labelAt g p, .cancelled (labelAt g p) "apply") ∈ w.failures
  explained : ∀ entry ∈ w.failures, ∃ p < g.size, entry.1 = labelAt g p ∧
    (Fate.failed.Holds g .apply hs p ∨
      Fate.blocked.Holds g .apply hs p ∧ b.status p ≠ .disabled ∨
      Fate.cancelled.Holds g .apply hs p)

/-- Whatever the board was, and whatever the results, the order of completion and the
instant of a cancellation are, a walk that applied resources accounts for each of them. -/
theorem accounting {registry : Registry} (hg : g.BuiltFrom registry)
    (run : Run g .apply b hs w) (hover : Over w) : Accounted g b hs w := by
  have h := hg.coherent
  have hr := run.reached h
  constructor
  · exact fun p _ => hr.existsUnique_fate hover p
  · exact fun p _ fate hp => hr.status_of_fate hp
  · exact fun p hp => skips_eq_true_iff.mp (hr.marks.skipped p hp)
  · exact fun p hp hstart => hr.flow.not_refused_of_started hstart hp
  · exact fun p hlt hp => hr.refused_of_unreached h hover hlt hp
  -- A walk fails with its first failure, which is there exactly if the list is not empty.
  · unfold result
    cases w.failures with
    | nil => exact Or.inl ⟨rfl, rfl⟩
    | cons _ _ => exact Or.inr rfl
  · exact hr.ledger.nodup
  · exact fun p error hend => hr.mem_failures_of_ended h hend
  · intro p hp hdisabled
    obtain ⟨f, hfail, hpf, hmem⟩ := hr.mem_failures_of_dragged h ⟨hp, rfl, hdisabled⟩
    exact ⟨f, mem_failed.mp hfail, hpf, hmem⟩
  · exact fun p hp => hr.mem_failures_of_refused h hp
  -- The ledger explains every entry, and its three reasons are the three fates that have one.
  · rintro ⟨label, error⟩ hentry
    obtain ⟨p, hlabel, hwhy⟩ := hr.ledger.explained _ hentry
    refine ⟨p, hwhy.lt h hr.flow, hlabel, ?_⟩
    cases hwhy with
    | own hend => exact Or.inl ⟨_, hend⟩
    | refused hrefused => exact Or.inr (Or.inr hrefused)
    | dragged hdragged _ _ => exact Or.inr (Or.inl ⟨hdragged.1, hdragged.2.2⟩)

/-- A network that cannot be created takes its container with it, which is marked as failed and
never started. -/
theorem accounting_webOnNet : ∃ hs w,
    Run .webOnNet .apply (.ofResources Graph.webOnNet.resources) hs w ∧
      w.board.status 0 = .failed ∧ w.board.status 1 = .failed ∧
      Accounted .webOnNet (.ofResources Graph.webOnNet.resources) hs w := by
  have hbegin : Run .webOnNet .apply (.ofResources Graph.webOnNet.resources) [] _ := .begin rfl
  have hrun := (hbegin.next false rfl).finish
    (.error (.engine "create network" (.reported "pool overlaps"))) rfl List.mem_cons_self
  exact ⟨_, _, hrun, rfl, rfl, accounting Graph.webOnNet_built hrun ⟨rfl, rfl⟩⟩

end Moorage.Walk
