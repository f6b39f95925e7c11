import Mathlib.Algebra.Order.Floor.Div
import Mathlib.Data.List.Chain
import Moorage.Proofs.Poll.Course
import Moorage.Proofs.Rehearsal.Clock

/-!
# `Moorage.Proofs.Poll.Timing`: a wait keeps to its deadline

When a wait checks, how often, and how and when it ends. Each of these is shown of `Waited` by
induction on the rounds, and `Timely` puts them together.

The first check is at the start, and between two checks there is a pause of the interval or of what
is left until the deadline. A wait ends with its check when this holds or fails, when the clock is
not before the deadline any more after a check, or when it was cancelled. Checks take the time that
they take, so the last one may end behind the deadline; the pauses never do.

The number of checks is bounded by the pauses for which there is time left, and one more. This is
what the rounds are compared with: for a positive interval they suffice (`pausesLeft_lt_attempts`),
and for an interval of zero they are all used up, `length_eq_of_pauseless`. Such a wait does not
end by itself, and the rounds stand in for that. `poll_timely` says so for as many rounds as one
likes.

* `pausesLeft_pause`: what a pause takes off the number of checks for which there is time left.
* `Waited.length_le`, `Waited.length_eq`: how many checks there are.
* `poll_timely`: every wait is timely.
* `perform_poll_of_overflow`: a deadline that no instant can hold crashes the wait before its first
  check.
-/

set_option autoImplicit false

namespace Moorage.Poll

variable {policy : PollPolicy} {owner step : String} {check : Action Bool} {attempts : Nat}
  {m after : Moment} {checks : List Check} {log : Exchanges} {result : Except Error Unit}

/-! ### When a wait checks -/

/-- For how many pauses there is time until the deadline. The last of them may be shorter, so this
rounds up. -/
def pausesLeft (policy : PollPolicy) (deadline now : Nat) : Nat :=
  (deadline - now) ⌈/⌉ policy.interval.nanos

/-- One check comes after the other: the first one reported that it does not hold while there was
time left, and the pause is as long as it should be. -/
structure Follows (policy : PollPolicy) (deadline : Nat) (c d : Check) : Prop where
  outcome : c.outcome = .ok false
  ahead : c.finish.now < deadline
  paused : d.start.now = c.finish.now + min policy.interval.nanos (deadline - c.finish.now)

/-- The rounds ran out with a check although there is time left. Only without pauses that can
happen, and then it says nothing of the wait but that it goes on. -/
structure Spent (policy : PollPolicy) (deadline attempts made : Nat) (c : Check) : Prop where
  outcome : c.outcome = .ok false
  ahead : c.finish.now < deadline
  pauseless : policy.interval.nanos = 0
  made : made = attempts

/-- With one more round and one more check the rounds run out as before. It is the step of the
induction for waits that run out of rounds. -/
theorem Spent.cons {deadline made : Nat} {c : Check} (h : Spent policy deadline attempts made c) :
    Spent policy deadline (attempts + 1) (made + 1) c :=
  { h with made := congrArg (· + 1) h.made }

/-- A pause takes one off the pauses for which there is time. A pause that is cut short by the
deadline is the last one, and leaves none. -/
theorem pausesLeft_pause {deadline now : Nat} (hinterval : 0 < policy.interval.nanos)
    (hahead : now < deadline) :
    pausesLeft policy deadline (now + min policy.interval.nanos (deadline - now)) + 1 =
      pausesLeft policy deadline now := by
  unfold pausesLeft
  rw [Nat.ceilDiv_eq_add_pred_div, Nat.ceilDiv_eq_add_pred_div, ← Nat.add_div_right _ hinterval]
  generalize policy.interval.nanos = interval at hinterval ⊢
  cases Nat.le_total interval (deadline - now) with
  | inl hwhole =>
      rw [Nat.min_eq_left hwhole]
      congr 1
      omega
  | inr hcut =>
      -- The time left is up with this pause, which was the only one.
      rw [Nat.min_eq_right hcut]
      have hone : ∀ n, interval ≤ n → n < 2 * interval → n / interval = 1 := fun n hle hlt =>
        Nat.div_eq_of_lt_le (by omega) (by omega)
      rw [hone _ (by omega) (by omega), hone _ (by omega) (by omega)]

/-- After a check that takes its time and a pause, there is time for fewer pauses. It is an
inequality, as a slow check may take off several. -/
theorem pausesLeft_next {deadline : Nat} {c : Check} (hinterval : 0 < policy.interval.nanos)
    (hlasts : c.start.Precedes c.finish) (hahead : c.finish.now < deadline) :
    pausesLeft policy deadline
        (c.finish.now + min policy.interval.nanos (deadline - c.finish.now)) + 1 ≤
      pausesLeft policy deadline c.start.now := by
  rw [pausesLeft_pause hinterval hahead]
  have hlater := hlasts.now
  show (deadline - c.finish.now + _ - 1) / _ ≤ (deadline - c.start.now + _ - 1) / _
  exact Nat.div_le_div_right (by omega)

namespace Waited

variable {deadline : Nat}

/-- No check starts once the work is cancelled. A check that is under way is not stopped by it,
though. -/
theorem start_not_cancelled
    (h : Waited policy owner step deadline attempts m checks result after) :
    ∀ c ∈ checks, c.start.cancelled = false := by
  induction h with
  | spent | stopped => exact List.forall_mem_nil _
  | last ongoing => exact List.forall_mem_singleton.mpr ongoing
  | again ongoing _ _ _ _ _ _ ih => exact List.forall_mem_cons.mpr ⟨ongoing, ih⟩

/-- No check starts after the deadline, as no pause goes beyond it. A check that starts in time
may end late. -/
theorem start_le (h : Waited policy owner step deadline attempts m checks result after)
    (hm : m.now ≤ deadline) : ∀ c ∈ checks, c.start.now ≤ deadline := by
  induction h with
  | spent | stopped => exact List.forall_mem_nil _
  | last => exact List.forall_mem_singleton.mpr hm
  | again _ _ _ ahead _ paused _ ih =>
      have hnext := ih (by omega)
      exact List.forall_mem_cons.mpr ⟨hm, hnext⟩

/-- The first check starts at once. There is no pause in front of it. -/
theorem start_of_head (h : Waited policy owner step deadline attempts m checks result after) :
    ∀ c ∈ checks.head?, c.start = m := by
  cases h with
  | spent | stopped => simp
  | last | again => simp

/-- Unless the work is cancelled already, there is a check. This holds for a deadline of zero,
too. -/
theorem ne_nil (h : Waited policy owner step deadline attempts m checks result after)
    (hattempts : attempts ≠ 0) (hm : m.cancelled = false) : checks ≠ [] := by
  cases h with
  | spent => exact absurd rfl hattempts
  | stopped cancelled =>
      rw [hm] at cancelled
      cases cancelled
  | last | again => exact List.cons_ne_nil _ _

/-- If it is, there is none, and the wait says so at once. No time has passed then. -/
theorem eq_stopped (h : Waited policy owner step deadline attempts m checks result after)
    (hattempts : attempts ≠ 0) (hm : m.cancelled = true) :
    checks = [] ∧ result = .error (.cancelled owner step) ∧ after = m := by
  cases h with
  | spent => exact absurd rfl hattempts
  | stopped => exact ⟨rfl, rfl, rfl⟩
  | last ongoing | again ongoing =>
      rw [hm] at ongoing
      cases ongoing

/-- Every check but the last one is followed by the next one after its pause. -/
theorem isChain (h : Waited policy owner step deadline attempts m checks result after) :
    checks.IsChain (Follows policy deadline) := by
  induction h with
  | spent | stopped => exact .nil
  | last => exact .singleton _
  | again _ _ outcome ahead _ paused next ih =>
      refine List.isChain_cons.mpr ⟨?_, ih⟩
      intro d hd
      obtain rfl := next.start_of_head d hd
      exact ⟨outcome, ahead, paused⟩

/-- A wait whose checks are over at once is over by the deadline. What is left are pauses, and
they end there. -/
theorem after_le (h : Waited policy owner step deadline attempts m checks result after)
    (hinstant : ∀ c ∈ checks, c.finish.now = c.start.now) (hm : m.now ≤ deadline) :
    after.now ≤ deadline := by
  induction h with
  | spent | stopped => exact hm
  | @last _ c _ _ _ _ ends =>
      have hfinish := hinstant c (List.mem_singleton_self c)
      cases ends with
      | held | broken | late => omega
      | cut _ ahead _ soon _ => omega
  | again _ _ _ ahead _ paused _ ih =>
      have hlater := (List.forall_mem_cons.mp hinstant).2
      exact ih hlater (by omega)

/-- A wait that succeeds does so right after a check that holds. It reads no clock in between, so
a success may come late. -/
theorem exists_held (h : Waited policy owner step deadline attempts m checks (.ok ()) after) :
    ∃ c ∈ checks, c.outcome = .ok true ∧ c.finish = after := by
  generalize hresult : (.ok () : Except Error Unit) = result at h
  induction h with
  | spent | stopped => cases hresult
  | last _ _ ends =>
      cases ends with
      | held outcome => exact ⟨_, List.mem_singleton_self _, outcome, rfl⟩
      | broken | late | cut => cases hresult
  | again _ _ _ _ _ _ _ ih =>
      -- This check did not hold, a later one did.
      obtain ⟨c, hc, hheld⟩ := ih hresult
      exact ⟨c, List.mem_cons_of_mem _ hc, hheld⟩

/-- There are no more checks than there is time for, however long they take. One more than pauses,
since the first comes at once. -/
theorem length_le (h : Waited policy owner step deadline attempts m checks result after)
    (hinterval : 0 < policy.interval.nanos) :
    checks.length ≤ pausesLeft policy deadline m.now + 1 := by
  induction h with
  | spent | stopped => exact Nat.zero_le _
  | last => exact Nat.le_add_left 1 _
  | again _ lasts _ ahead _ paused _ ih =>
      rw [paused] at ih
      have hless := pausesLeft_next hinterval lasts ahead
      exact Nat.succ_le_succ (ih.trans hless)

/-- When every check is over at once and none holds, every check for which there is time is made,
unless the work is cancelled. -/
theorem length_eq (h : Waited policy owner step deadline attempts m checks result after)
    (hinterval : 0 < policy.interval.nanos)
    (hattempts : pausesLeft policy deadline m.now < attempts)
    (hinstant : ∀ c ∈ checks, c.finish.now = c.start.now)
    (hunready : ∀ c ∈ checks, c.outcome = .ok false) (hafter : after.cancelled = false) :
    checks.length = pausesLeft policy deadline m.now + 1 := by
  induction h with
  | spent => exact absurd hattempts (Nat.not_lt_zero _)
  | stopped cancelled =>
      rw [hafter] at cancelled
      cases cancelled
  | @last _ c _ _ _ _ ends =>
      have hout := hunready c (List.mem_singleton_self c)
      cases ends with
      | held outcome | broken outcome =>
          rw [hout] at outcome
          cases outcome
      | late _ passed =>
          -- The check ran at the deadline itself, so there is no time for a pause.
          have hstart : deadline - c.start.now = 0 := by
            have := hinstant c (List.mem_singleton_self c)
            omega
          show 1 = pausesLeft policy deadline c.start.now + 1
          rw [pausesLeft, hstart, zero_ceilDiv]
      | cut _ _ _ _ cancelled =>
          rw [hafter] at cancelled
          cases cancelled
  | @again _ c _ _ _ _ _ _ _ ahead _ paused _ ih =>
      -- A check that is over at once leaves the whole time to the pauses.
      obtain ⟨hfinish, hinstant⟩ := List.forall_mem_cons.mp hinstant
      rw [paused, hfinish] at ih
      rw [hfinish] at ahead
      have hone := pausesLeft_pause hinterval ahead
      have hlater := ih (by omega) hinstant (List.forall_mem_cons.mp hunready).2 hafter
      rw [List.length_cons, hlater, hone]

/-- Without pauses, checks that are over at once never come to the deadline. However many rounds
such a wait is given, it uses all of them up if none of its checks holds and it is not cancelled,
and no time has passed by then. So it has no end of its own. -/
theorem length_eq_of_pauseless
    (h : Waited policy owner step deadline attempts m checks result after)
    (hinterval : policy.interval.nanos = 0) (hm : m.now < deadline)
    (hinstant : ∀ c ∈ checks, c.finish.now = c.start.now)
    (hunready : ∀ c ∈ checks, c.outcome = .ok false) (hafter : after.cancelled = false) :
    checks.length = attempts ∧ after.now = m.now := by
  induction h with
  | spent => exact ⟨rfl, rfl⟩
  | stopped cancelled =>
      rw [hafter] at cancelled
      cases cancelled
  | @last _ c _ _ _ _ ends =>
      have hout := hunready c (List.mem_singleton_self c)
      cases ends with
      | held outcome | broken outcome =>
          rw [hout] at outcome
          cases outcome
      | late _ passed =>
          have hfinish := hinstant c (List.mem_singleton_self c)
          omega
      | cut _ _ _ _ cancelled =>
          rw [hafter] at cancelled
          cases cancelled
  | @again _ c m' _ _ _ _ _ _ _ _ paused _ ih =>
      -- The pause has no length, so the next round starts when this one did.
      obtain ⟨hfinish, hinstant⟩ := List.forall_mem_cons.mp hinstant
      rw [hinterval, Nat.zero_min, Nat.add_zero, hfinish] at paused
      obtain ⟨hlength, hnow⟩ :=
        ih (paused ▸ hm) hinstant (List.forall_mem_cons.mp hunready).2 hafter
      exact ⟨congrArg (· + 1) hlength, hnow.trans paused⟩

/-- The wait ends with its last check. With as many rounds as there are checks for which there is
time, it does not run out of rounds before; without pauses it may. -/
theorem ends_of_getLast (h : Waited policy owner step deadline attempts m checks result after)
    (hattempts : 0 < policy.interval.nanos → pausesLeft policy deadline m.now < attempts) :
    ∀ c ∈ checks.getLast?, Ends policy owner step deadline c result after ∨
      Spent policy deadline attempts checks.length c := by
  induction h with
  | spent | stopped => simp
  | last _ _ ends =>
      rintro c ⟨⟩
      exact Or.inl ends
  | @again attempts c m after checks result _ lasts outcome ahead follows paused next ih =>
      -- One round is gone, and one pause at least, so the rounds still last.
      have hrounds : 0 < policy.interval.nanos → pausesLeft policy deadline m.now < attempts := by
        intro hinterval
        have hless := pausesLeft_next hinterval lasts ahead
        rw [← paused] at hless
        exact Nat.lt_of_succ_lt_succ (Nat.lt_of_le_of_lt hless (hattempts hinterval))
      cases next with
      | spent =>
          rintro d ⟨⟩
          refine Or.inr ⟨outcome, ahead, ?_, rfl⟩
          exact Nat.eq_zero_of_not_pos fun hinterval => Nat.not_lt_zero _ (hrounds hinterval)
      | stopped cancelled =>
          -- The work was cancelled in the very last moment of the pause.
          rintro d ⟨⟩
          exact Or.inl (.cut outcome ahead follows (Nat.le_of_eq paused) cancelled)
      | last | again =>
          intro d hd
          rw [List.getLast?_cons_cons] at hd
          exact (ih hrounds d hd).imp_right Spent.cons

end Waited

/-! ### A whole wait -/

/-- What is said of a wait that is called at the moment `before`: of its checks, and of how it
ends and when. -/
structure Timely (policy : PollPolicy) (owner step : String) (attempts : Nat) (before : Moment)
    (checks : List Check) (result : Except Error Unit) (after : Moment) : Prop where
  /-- Unless the work was cancelled before, there is a check at once. -/
  first : before.cancelled = false → ∃ c later, checks = c :: later ∧ c.start = before
  /-- If it was, there is none, and the wait is over at once. -/
  stopped : before.cancelled = true →
    checks = [] ∧ result = .error (.cancelled owner step) ∧ after = before
  /-- No check starts after the deadline. -/
  inTime : ∀ c ∈ checks, c.start.now ≤ before.now + policy.deadline.nanos
  /-- No check starts once the work is cancelled. -/
  ongoing : ∀ c ∈ checks, c.start.cancelled = false
  /-- All checks but the last one reported that it does not hold before the deadline, and the next
  one starts after a pause that the deadline shortens. -/
  paced : checks.IsChain (Follows policy (before.now + policy.deadline.nanos))
  /-- The last check decides how the wait ends. Only without pauses the rounds can run out. -/
  ends : ∀ c ∈ checks.getLast?,
    Ends policy owner step (before.now + policy.deadline.nanos) c result after ∨
      Spent policy (before.now + policy.deadline.nanos) attempts checks.length c
  /-- There are at most as many checks as there is time for. -/
  atMost : 0 < policy.interval.nanos →
    checks.length ≤ policy.deadline.nanos ⌈/⌉ policy.interval.nanos + 1
  /-- There are as many if every one is over at once, none holds and nothing is cancelled. -/
  exactly : 0 < policy.interval.nanos → (∀ c ∈ checks, c.finish.now = c.start.now) →
    (∀ c ∈ checks, c.outcome = .ok false) → after.cancelled = false →
    checks.length = policy.deadline.nanos ⌈/⌉ policy.interval.nanos + 1

/-- The rounds of a policy are the checks for which there is time. An interval of zero has no such
number, and is the excluded case. -/
theorem attempts_eq (hinterval : 0 < policy.interval.nanos) :
    policy.attempts = policy.deadline.nanos ⌈/⌉ policy.interval.nanos + 1 := by
  rw [PollPolicy.attempts, if_neg (Nat.ne_of_gt hinterval), Nat.ceilDiv_eq_add_pred_div]

/-- A policy has a round at least, so that every wait checks once. This is the part that holds for
every interval. -/
theorem attempts_pos (policy : PollPolicy) : 0 < policy.attempts := by
  unfold PollPolicy.attempts
  split
  · exact Nat.two_pow_pos 64
  · exact Nat.succ_pos _

/-- With pauses, the rounds of a policy are more than there is time for from the start of a wait.
So the bound on the rounds is never met, and no wait ends by it. -/
theorem pausesLeft_lt_attempts (hinterval : 0 < policy.interval.nanos) (now : Nat) :
    pausesLeft policy (now + policy.deadline.nanos) now < policy.attempts := by
  rw [pausesLeft, Nat.add_sub_cancel_left, attempts_eq hinterval]
  exact Nat.lt_succ_self _

/-- A wait is timely. It has the rounds of its policy, and more of them would not change that: the
number of rounds matters without pauses only, where it is as large as one likes. -/
theorem poll_timely (policy : PollPolicy) (owner step : String) (check : Action Bool) :
    poll policy owner step check = rounds policy owner step check policy.attempts ∧
    ∀ attempts, policy.attempts ≤ attempts → ∀ log result before after,
      (rounds policy owner step check attempts).Yields log result →
      Exchange.Replays Moment.Passes before log after →
      ∃ checks, Course Moment.Passes check before checks log after ∧
        Timely policy owner step attempts before checks result after := by
  refine ⟨rfl, ?_⟩
  intro attempts hattempts log result before after hyields hreplays
  obtain ⟨checks, hcourse, hwaited⟩ :=
    exists_waited_of_rounds (fun _ _ _ h => h) hyields hreplays
  have hsome : attempts ≠ 0 := Nat.ne_of_gt (Nat.lt_of_lt_of_le (attempts_pos policy) hattempts)
  -- The time that there is at the start is the deadline of the policy.
  have hbudget : pausesLeft policy (before.now + policy.deadline.nanos) before.now =
      policy.deadline.nanos ⌈/⌉ policy.interval.nanos := by
    rw [pausesLeft, Nat.add_sub_cancel_left]
  have hrounds (hinterval : 0 < policy.interval.nanos) :
      pausesLeft policy (before.now + policy.deadline.nanos) before.now < attempts :=
    Nat.lt_of_lt_of_le (pausesLeft_lt_attempts hinterval before.now) hattempts
  refine ⟨checks, hcourse, ?_⟩
  exact {
    first := by
      intro hbefore
      obtain ⟨c, later, rfl⟩ := List.exists_cons_of_ne_nil (hwaited.ne_nil hsome hbefore)
      exact ⟨c, later, rfl, hwaited.start_of_head c rfl⟩
    stopped := hwaited.eq_stopped hsome
    inTime := hwaited.start_le (Nat.le_add_right _ _)
    ongoing := hwaited.start_not_cancelled
    paced := hwaited.isChain
    ends := hwaited.ends_of_getLast hrounds
    atMost := fun hinterval => hbudget ▸ hwaited.length_le hinterval
    exactly := fun hinterval hinstant hunready hafter =>
      hbudget ▸ hwaited.length_eq hinterval (hrounds hinterval) hinstant hunready hafter }

open Rehearsal

/-- A world in which the pods of `app` never get ready. -/
def neverReady : World := { pods := [("app", [.ok false])] }

/-- A check every twenty milliseconds, but only for ten. The one pause of it is cut short. -/
def briefly : PollPolicy := ⟨.ofMillis 20, .ofMillis 10⟩

/-- Pods that never get ready are looked at twice, at once and at the deadline. The pause in
between is the one that is cut short. -/
theorem poll_timely_neverReady :
    ∃ log, (rounds briefly "helm.app" "health check" (Service.podsReady {} "app")
        briefly.attempts).Yields log (.error (timeout briefly "helm.app" "health check")) ∧
      Exchange.Replays Moment.Passes ⟨0, false⟩ log ⟨10000000, false⟩ ∧
      ∃ checks, Course Moment.Passes (Service.podsReady {} "app") ⟨0, false⟩ checks log
          ⟨10000000, false⟩ ∧
        Timely briefly "helm.app" "health check" briefly.attempts ⟨0, false⟩ checks
          (.error (timeout briefly "helm.app" "health check")) ⟨10000000, false⟩ := by
  have hrun : ((Turn.play 0 (poll briefly "helm.app" "health check"
      (Service.podsReady {} "app")).run neverReady).settle).1 =
        .ok (.error (timeout briefly "helm.app" "health check")) := by rfl
  have hafter : ((Turn.play 0 (poll briefly "helm.app" "health check"
      (Service.podsReady {} "app")).run neverReady).settle).2.moment = ⟨10000000, false⟩ := by rfl
  obtain ⟨log, hyields, hreplays⟩ := exists_passes_of_settle hrun
  rw [hafter] at hreplays
  refine ⟨log, hyields, hreplays, ?_⟩
  exact (poll_timely briefly "helm.app" "health check" (Service.podsReady {} "app")).2
    briefly.attempts (Nat.le_refl _) log _ _ _ hyields hreplays

/-- A deadline that no instant can hold crashes the wait before its first check. The world is as
it was, and nothing has been asked. -/
theorem perform_poll_of_overflow {position : Nat} {w : World}
    (h : Nat.pow 2 63 * Duration.nanosPerSec ≤ w.clock.nanos + policy.deadline.nanos) :
    Turn.perform position (poll policy owner step check) w =
      (.error (Turn.crash position "overflow when adding duration to instant"), w) := by
  have hmeet : (w.meet position (.deadline policy.deadline)).alone =
      (.error "overflow when adding duration to instant", w) := by
    unfold World.meet
    dsimp only
    rw [if_neg (Nat.not_lt_of_le h)]
    rfl
  have hsettle : (Turn.play position (poll policy owner step check).run w).settle =
      (.error "overflow when adding duration to instant", w) := by
    refine Turn.settle_play_ask.trans ?_
    rw [hmeet]
    rfl
  unfold Turn.perform
  rw [hsettle]
  rfl

/-- As long as a number of seconds can say. Written in a document, it is a timeout like any
other. -/
def endlessly : PollPolicy := ⟨.ofSecs 1, .ofSecs (2 ^ 64 - 1)⟩

/-- Pods that are ready are not looked at when the deadline is as long as that. A single look at
them would have been enough. -/
theorem perform_poll_endlessly :
    Turn.perform 0 (poll endlessly "helm.app" "health check" (Service.podsReady {} "app")) {} =
        (.error (Turn.crash 0 "overflow when adding duration to instant"), {}) ∧
      (Turn.perform 0 (Service.podsReady {} "app") {}).1 = .ok true := by
  refine ⟨perform_poll_of_overflow ?_, rfl⟩
  decide

end Moorage.Poll
