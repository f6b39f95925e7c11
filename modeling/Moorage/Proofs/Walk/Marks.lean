import Moorage.Proofs.Walk.Flow

/-!
# `Moorage.Proofs.Walk.Marks`: the statuses during a walk

`Marks` says what the status of every resource is, from the board that the walk began
with and from what has happened. A resource that was neither started nor made to fail
with another keeps its status (`Marks.kept`), and so the choice between skipping and
starting a resource is made on the status that it had in the beginning.

Applying and destroying differ in what they write. A resource that is being created says so while
its task runs, and one that is being destroyed keeps its status until it is gone. A failure while
applying drags everything with it that waits for the resource, `Dragged`, but for what is disabled:
these get the status of a failure and are not started. While destroying, nothing is dragged.

The statuses are on the board and not in the walk, and a board is read by position. `Marks.length`
keeps the positions of the graph within it.

`Marks.step` is the step lemma. `Marks.status_of_released` is what the order of starts
rests on: what was released is done with or disabled.
-/

set_option autoImplicit false

namespace Moorage.Walk

open Relation (TransGen)

variable {g : Graph} {kind : WalkKind} {b : Board} {hs : List Happening} {w : Walk}

/-- A walk skips what it has nothing to do for: what is disabled or done with. Which status is
done with depends on the kind of walk. -/
theorem skips_eq_true_iff {kind : WalkKind} {s : Status} :
    kind.skips s = true ↔ s = kind.done ∨ s = .disabled := by
  cases kind <;> cases s <;> decide

/-- The status of a resource while its task runs. Only creations show; a resource that is being
destroyed looks as it did before. -/
def underway (kind : WalkKind) (before : Status) : Status :=
  match kind with
  | .apply => .creating
  | .destroy => before

/-- The resource fails because something that it waits for has failed. This is so in walks that
apply, for resources that are not disabled, over chains of any length. -/
def Dragged (g : Graph) (kind : WalkKind) (b : Board) (hs : List Happening) (p : Nat) : Prop :=
  CutOff g kind hs p ∧ kind = .apply ∧ b.status p ≠ .disabled

/-- The statuses that a walk leaves on the board, from the board `b` that it began
with. -/
structure Marks (g : Graph) (kind : WalkKind) (b : Board) (hs : List Happening) (w : Walk) :
    Prop where
  length : w.board.standings.length = g.size
  skipped : ∀ p, Happening.skipped p ∈ hs → kind.skips (b.status p) = true
  refused : ∀ p, Happening.refused p ∈ hs → kind.skips (b.status p) = false
  started : ∀ p ∈ started hs, kind.skips (b.status p) = false
  succeeded : ∀ p, Happening.ended p (.ok ()) ∈ hs → w.board.status p = kind.done
  failed : ∀ p ∈ failed hs, w.board.status p = .failed
  running : ∀ p ∈ w.running, w.board.status p = underway kind (b.status p)
  dragged : ∀ p, Dragged g kind b hs p → w.board.status p = .failed
  kept : ∀ p, p ∉ Walk.started hs → ¬ Dragged g kind b hs p →
    w.board.status p = b.status p

/-! ### Boards that moves write -/

/-- Starting a task writes its status only. The position has to be one of the board. -/
theorem status_starting (kind : WalkKind) {b : Board} {p : Nat} (hp : p < b.standings.length)
    (q : Nat) : (starting kind b p).status q
      = if q = p then underway kind (b.status p) else b.status q := by
  cases kind with
  | apply => exact Board.status_setStatus hp q _
  | destroy =>
      by_cases hqp : q = p
      · subst hqp
        simp [starting, underway]
      · simp [starting, hqp]

/-- A task that starts keeps the board's length. -/
@[simp]
theorem length_starting (kind : WalkKind) (b : Board) (p : Nat) :
    (starting kind b p).standings.length = b.standings.length := by
  cases kind <;> simp [starting]

/-- A task that succeeded writes its status only. The children that go with a destruction are no
statuses of the graph. -/
theorem status_settled (kind : WalkKind) {b : Board} {p : Nat} (hp : p < b.standings.length)
    (q : Nat) : (settled kind b p).status q = if q = p then kind.done else b.status q := by
  cases kind with
  | apply => exact Board.status_setStatus hp q _
  | destroy =>
      unfold settled
      rw [Board.status_retireChildren, Board.status_setStatus hp]

/-- A task that ends keeps the board's length. -/
@[simp]
theorem length_settled (kind : WalkKind) (b : Board) (p : Nat) :
    (settled kind b p).standings.length = b.standings.length := by
  cases kind <;> simp [settled]

/-- A resource is dragged along by failures alone, so that every other happening leaves the set of
those that are. -/
theorem dragged_concat {e : Happening} (he : e.failed? = none) (p : Nat) :
    Dragged g kind b (hs ++ [e]) p ↔ Dragged g kind b hs p :=
  and_congr_left' (cutOff_concat he p)

/-- At the start every resource has the status that it came with. -/
theorem marks_begin (hlength : b.standings.length = g.size) :
    Marks g kind b [] (begin g kind b) where
  length := hlength
  skipped _ hp := nomatch hp
  refused _ hp := nomatch hp
  started _ hp := nomatch hp
  succeeded _ hp := nomatch hp
  failed _ hp := nomatch hp
  running _ hp := nomatch hp
  dragged _ hp := nomatch hp.1.choose_spec.1
  kept _ _ _ := rfl

namespace Marks

/-! ### What follows from the marks -/

/-- What is released is done with, or it is disabled. It was skipped with such a status, or its
task has written it. -/
theorem status_of_released (hf : Flow g kind hs w) (hm : Marks g kind b hs w) {p : Nat}
    (hp : p ∈ released hs) : w.board.status p = kind.done ∨ w.board.status p = .disabled := by
  rcases mem_released.mp hp with hskip | hok
  · have hunstarted : p ∉ Walk.started hs := fun hstart =>
      hf.not_skipped_of_started hstart hskip
    have hfree : ¬ Dragged g kind b hs p := fun hdrag =>
      hf.not_cutOff_of_taken (hf.taken_of_released hp) hdrag.1
    rw [hm.kept p hunstarted hfree]
    exact skips_eq_true_iff.mp (hm.skipped p hskip)
  · exact Or.inl (hm.succeeded p hok)

/-- What is ready has the status that it had in the beginning: it was not started, and nothing
that it waits for has failed. So a walk decides on statuses of the beginning. -/
theorem status_of_ready (hf : Flow g kind hs w) (hm : Marks g kind b hs w) {p : Nat}
    {rest : List Nat} (hready : w.ready = p :: rest) : w.board.status p = b.status p := by
  obtain ⟨-, hnew, hdone⟩ := hf.of_mem_ready hready
  exact hm.kept p (fun hstart => hnew (Flow.taken_of_started hstart))
    fun hdrag => hf.not_cutOff hdone hdrag.1

/-! ### The step lemma, one case for each effect -/

/-- Only the board and the running tasks matter. For moves that change counters and failures. -/
theorem congr (hm : Marks g kind b hs w) {w' : Walk} (hboard : w'.board = w.board)
    (hrunning : w'.running = w.running) : Marks g kind b hs w' := by
  obtain ⟨hlength, hskipped, hrefused, hstarted, hsucceeded, hfailed, hrun, hdragged, hkept⟩ := hm
  rw [← hboard] at hlength hsucceeded hfailed hrun hdragged hkept
  rw [← hrunning] at hrun
  exact ⟨hlength, hskipped, hrefused, hstarted, hsucceeded, hfailed, hrun, hdragged, hkept⟩

/-- A move that starts and ends no task, and writes no status. What was skipped or refused by it
has to be right for its status. -/
theorem of_still (hm : Marks g kind b hs w) {e : Happening} {w' : Walk}
    (hstarted : e.started? = none) (hended : e.ended? = none)
    (hlength : w'.board.standings.length = w.board.standings.length)
    (hstatus : ∀ q, w'.board.status q = w.board.status q) (hrunning : w'.running = w.running)
    (hskip : ∀ p, e = .skipped p → kind.skips (b.status p) = true)
    (hrefuse : ∀ p, e = .refused p → kind.skips (b.status p) = false) :
    Marks g kind b (hs ++ [e]) w' := by
  have hfailed : e.failed? = none := by
    cases e with
    | ended _ _ => cases hended
    | _ => rfl
  -- What is asked about single happenings is asked about the new one and about those before it.
  have hold : ∀ e', e' ∈ hs ++ [e] → e' ∈ hs ∨ e' = e := by simp
  constructor
  · rw [hlength]
    exact hm.length
  · exact fun p hp => (hold _ hp).elim (hm.skipped p) fun he => hskip p he.symm
  · exact fun p hp => (hold _ hp).elim (hm.refused p) fun he => hrefuse p he.symm
  · intro p hp
    rw [started_concat_of_none hstarted] at hp
    exact hm.started p hp
  · intro p hp
    rw [hstatus]
    refine (hold _ hp).elim (hm.succeeded p) fun he => ?_
    subst he
    cases hended
  · intro p hp
    rw [failed_concat_of_none hfailed] at hp
    rw [hstatus]
    exact hm.failed p hp
  · intro p hp
    rw [hrunning] at hp
    rw [hstatus]
    exact hm.running p hp
  · intro p hp
    rw [hstatus]
    exact hm.dragged p ((dragged_concat hfailed p).mp hp)
  · intro p hp hfree
    rw [started_concat_of_none hstarted] at hp
    rw [hstatus]
    exact hm.kept p hp fun hdrag => hfree ((dragged_concat hfailed p).mpr hdrag)

/-- A resource that is started has the status of one that is under way. It was not skipped, so its
status before was neither done nor disabled. -/
theorem step_started (hf : Flow g kind hs w) (hm : Marks g kind b hs w) {p : Nat}
    {rest : List Nat} (hready : w.ready = p :: rest)
    (hskips : kind.skips (w.board.status p) = false) :
    Marks g kind b (hs ++ [.started p])
      { w with
        ready := rest
        board := starting w.kind w.board p
        running := w.running ++ [p] } := by
  obtain ⟨hp, hnew, hdone⟩ := hf.of_mem_ready hready
  -- The walk looked at the present status, and that is the one of the beginning.
  have hbefore := hm.status_of_ready hf hready
  have hstatus : ∀ q, (starting w.kind w.board p).status q
      = if q = p then underway kind (b.status p) else w.board.status q := by
    intro q
    rw [status_starting w.kind (hm.length ▸ hp), hf.kind_eq, hbefore]
  -- What came off the queue before is another resource, whose status stays.
  have hother : ∀ q ∈ taken hs, (starting w.kind w.board p).status q = w.board.status q := by
    intro q hq
    rw [hstatus, if_neg]
    rintro rfl
    exact hnew hq
  constructor
  · simpa using hm.length
  · exact fun q hq => hm.skipped q (mem_of_mem_concat (by simp) hq)
  · exact fun q hq => hm.refused q (mem_of_mem_concat (by simp) hq)
  · intro q hq
    rcases List.mem_append.mp (started_concat ▸ hq) with hq | hq
    · exact hm.started q hq
    · rw [List.mem_singleton.mp hq, ← hbefore]
      exact hskips
  · intro q hq
    have hok := mem_of_mem_concat (by simp) hq
    have hrel : q ∈ released hs := mem_released.mpr (Or.inr hok)
    exact (hother q (hf.taken_of_released hrel)).trans (hm.succeeded q hok)
  · intro q hq
    rw [failed_concat_of_none rfl] at hq
    exact (hother q (hf.taken_of_failed hq)).trans (hm.failed q hq)
  · intro q hq
    rcases List.mem_append.mp hq with hq | hq
    · have hstart := ((hf.mem_running q).mp hq).1
      exact (hother q (Flow.taken_of_started hstart)).trans (hm.running q hq)
    · rw [List.mem_singleton] at hq
      subst hq
      exact (hstatus q).trans (if_pos rfl)
  · -- What is cut off is not ready, so it is not the resource that starts.
    intro q hq
    have hdrag := (dragged_concat rfl q).mp hq
    refine (hstatus q).trans ?_
    rw [if_neg, hm.dragged q hdrag]
    rintro rfl
    exact hf.not_cutOff hdone hdrag.1
  · intro q hq hfree
    rw [started_concat, List.mem_append] at hq
    refine (hstatus q).trans ?_
    rw [if_neg fun hqp => hq (Or.inr (List.mem_singleton.mpr hqp))]
    exact hm.kept q (fun hstart => hq (Or.inl hstart))
      fun hdrag => hfree ((dragged_concat rfl q).mpr hdrag)

/-- A task that succeeds leaves its resource done. Its children go with it when it is destroyed. -/
theorem step_succeeded (hf : Flow g kind hs w) (hm : Marks g kind b hs w) {p : Nat}
    (hrunning : p ∈ w.running) :
    Marks g kind b (hs ++ [.ended p (.ok ())])
      { w with running := w.running.erase p, board := settled w.kind w.board p } := by
  obtain ⟨hstart, hunended⟩ := (hf.mem_running p).mp hrunning
  have htaken := Flow.taken_of_started hstart
  have hstatus : ∀ q, (settled w.kind w.board p).status q
      = if q = p then kind.done else w.board.status q := by
    intro q
    rw [status_settled w.kind (hm.length ▸ hf.taken_lt p htaken), hf.kind_eq]
  constructor
  · simpa using hm.length
  · exact fun q hq => hm.skipped q (mem_of_mem_concat (by simp) hq)
  · exact fun q hq => hm.refused q (mem_of_mem_concat (by simp) hq)
  · intro q hq
    rw [started_concat_of_none rfl] at hq
    exact hm.started q hq
  · intro q hq
    refine (hstatus q).trans ?_
    by_cases hqp : q = p
    · rw [if_pos hqp]
    · rw [if_neg hqp]
      exact hm.succeeded q
        (mem_of_mem_concat (fun heq => hqp (Happening.ended.inj heq).1) hq)
  · intro q hq
    rw [failed_concat_of_none rfl] at hq
    obtain ⟨error, hend⟩ := mem_failed.mp hq
    refine (hstatus q).trans ?_
    rw [if_neg, hm.failed q hq]
    rintro rfl
    exact hunended (mem_ended.mpr ⟨_, hend⟩)
  · intro q hq
    rw [hf.running_nodup.mem_erase_iff] at hq
    refine (hstatus q).trans ?_
    rw [if_neg hq.1]
    exact hm.running q hq.2
  · -- What is cut off never came off the queue, so it is not the resource that ended.
    intro q hq
    have hdrag := (dragged_concat rfl q).mp hq
    refine (hstatus q).trans ?_
    rw [if_neg, hm.dragged q hdrag]
    rintro rfl
    exact hf.not_cutOff_of_taken htaken hdrag.1
  · intro q hq hfree
    rw [started_concat_of_none rfl] at hq
    refine (hstatus q).trans ?_
    rw [if_neg]
    · exact hm.kept q hq fun hdrag => hfree ((dragged_concat rfl q).mpr hdrag)
    · rintro rfl
      exact hq hstart

/-- A failure drags along what it newly cuts off, unless it is disabled on the board of
that moment, which is the one of the beginning for such a resource. -/
theorem dragged_failed (h : g.Coherent) (hf : Flow g kind hs w) (hm : Marks g kind b hs w)
    {p : Nat} (hrunning : p ∈ w.running) (error : Error) {fresh : List Nat}
    (hfresh : ∀ q, q ∈ fresh ↔ TransGen (kind.Awaits g) q p ∧ ¬ CutOff g kind hs q) (q : Nat) :
    Dragged g kind b (hs ++ [.ended p (.error error)]) q ↔
      Dragged g kind b hs q ∨ q ∈ fresh ∧ FailsWith (failing g w p error) q := by
  by_cases hcut : CutOff g kind hs q
  · simp [Dragged, cutOff_failed, hcut, hfresh]
  · by_cases hqp : TransGen (kind.Awaits g) q p
    · have htaken := Flow.taken_of_started ((hf.mem_running p).mp hrunning).1
      -- What waits for a running task is not started, as that needs all that it waits for
      -- released.
      have hunstarted : q ∉ Walk.started hs := by
        intro hq
        refine hf.not_released_of_running hrunning ?_
        exact hf.released_of_transGen (hf.taken_awaits q (Flow.taken_of_started hq)) hqp
      have hne : q ≠ p := fun heq => not_awaits_self h p (heq ▸ hqp)
      have hstatus : (failing g w p error).board.status q = b.status q := by
        show (w.board.setStatus p .failed).status q = b.status q
        rw [Board.status_setStatus (hm.length ▸ hf.taken_lt p htaken), if_neg hne]
        exact hm.kept q hunstarted fun hdrag => hcut hdrag.1
      have hkind : (failing g w p error).kind = kind := hf.kind_eq
      simp [Dragged, FailsWith, cutOff_failed, hcut, hqp, hfresh, hstatus, hkind]
    · simp [Dragged, cutOff_failed, hcut, hqp, hfresh]

/-- What came off the queue keeps its status when another resource fails. Those that are dragged
along have not come off it, so no status that a task has written is lost. -/
theorem step_failed (h : g.Coherent) (hf : Flow g kind hs w) (hm : Marks g kind b hs w)
    {p : Nat} {error : Error} (hrunning : p ∈ w.running) :
    Marks g kind b (hs ++ [.ended p (.error error)])
      (block g (failing g w p error) (labelAt g p)) := by
  obtain ⟨hstart, hunended⟩ := (hf.mem_running p).mp hrunning
  have hp : p < g.size := hf.taken_lt p (Flow.taken_of_started hstart)
  obtain ⟨fresh, heffect, -, hfresh⟩ := hf.exists_fresh h hm.length hrunning error
  have hdragged := hm.dragged_failed h hf hrunning error hfresh
  have hfailing : ∀ q, (failing g w p error).board.status q
      = if q = p then .failed else w.board.status q :=
    fun q => Board.status_setStatus (hm.length ▸ hp) q _
  have htaken : ∀ q ∈ taken hs, (block g (failing g w p error) (labelAt g p)).board.status q
      = if q = p then .failed else w.board.status q := by
    intro q hq
    rw [heffect.status, if_neg, hfailing]
    -- What came off the queue waited for nothing that still runs.
    rintro ⟨hmem, -⟩
    refine hf.not_released_of_running hrunning ?_
    exact hf.released_of_transGen (hf.taken_awaits q hq) ((hfresh q).mp hmem).1
  constructor
  · rw [heffect.length]
    simpa [failing] using hm.length
  · exact fun q hq => hm.skipped q (mem_of_mem_concat (by simp) hq)
  · exact fun q hq => hm.refused q (mem_of_mem_concat (by simp) hq)
  · intro q hq
    rw [started_concat_of_none rfl] at hq
    exact hm.started q hq
  · intro q hq
    have hok : Happening.ended q (.ok ()) ∈ hs := mem_of_mem_concat (by simp) hq
    have hne : q ≠ p := by
      rintro rfl
      exact hunended (mem_ended.mpr ⟨_, hok⟩)
    rw [htaken q (hf.taken_of_released (mem_released.mpr (Or.inr hok))), if_neg hne]
    exact hm.succeeded q hok
  · intro q hq
    rcases List.mem_append.mp (failed_concat ▸ hq) with hq | hq
    · rw [htaken q (hf.taken_of_failed hq), hm.failed q hq, ite_self]
    · rw [List.mem_singleton.mp hq, htaken p (Flow.taken_of_started hstart), if_pos rfl]
  · intro q hq
    rw [heffect.running] at hq
    obtain ⟨hne, hq⟩ := hf.running_nodup.mem_erase_iff.mp hq
    have hqstart := ((hf.mem_running q).mp hq).1
    rw [htaken q (Flow.taken_of_started hqstart), if_neg hne]
    exact hm.running q hq
  · -- Those dragged along before have failed already, and the others fail now.
    intro q hq
    rw [heffect.status]
    rcases (hdragged q).mp hq with hold | hnew
    · rw [hfailing, hm.dragged q hold, ite_self, ite_self]
    · rw [if_pos hnew]
  · intro q hq hfree
    rw [started_concat_of_none rfl] at hq
    have hne : q ≠ p := by
      rintro rfl
      exact hq hstart
    rw [heffect.status, if_neg fun hnew => hfree ((hdragged q).mpr (Or.inr hnew)), hfailing,
      if_neg hne]
    exact hm.kept q hq fun hold => hfree ((hdragged q).mpr (Or.inl hold))

/-- Every move keeps the marks. It needs `Flow` of the walk before the move, for what the marks
say of the queue and of running tasks. -/
theorem step (h : g.Coherent) (hf : Flow g kind hs w) (hm : Marks g kind b hs w)
    {e : Happening} {w' : Walk} (he : Effect g w e w') : Marks g kind b (hs ++ [e]) w' := by
  cases he with
  | passed hready hblocked => exact absurd hblocked (hf.not_blocked_of_ready hready)
  -- What is ready has the status of the beginning, so the verdict on it was one on that status.
  | skipped hready hskips =>
      rw [hf.kind_eq, hm.status_of_ready hf hready] at hskips
      refine hm.of_still rfl rfl (by simp) (by simp) (by simp) ?_ (by simp)
      rintro q ⟨⟩
      exact hskips
  | refused hready hskips =>
      rw [hf.kind_eq, hm.status_of_ready hf hready] at hskips
      refine hm.of_still rfl rfl rfl (fun _ => rfl) rfl (by simp) ?_
      rintro q ⟨⟩
      exact hskips
  | started hready hskips => exact hm.step_started hf hready (hf.kind_eq ▸ hskips)
  | succeeded _ hrunning =>
      exact (hm.step_succeeded hf hrunning).congr (release_board _ _) (release_running _ _)
  | failed _ hrunning => exact hm.step_failed h hf hrunning
  | recorded _ => exact hm.of_still rfl rfl (by simp) (by simp) rfl (by simp) (by simp)

end Marks

end Moorage.Walk
