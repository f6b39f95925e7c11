import Moorage.Proofs.Poll.Timing

/-!
# `Moorage.Proofs.Health`: the time that a health check takes

The pods of one selector after another are waited for, and each of these waits has the whole
deadline of the policy. So a health check is over by the deadline if there is one selector, and
in general it is over by that many deadlines as there are selectors.

The time is that of exact sleeps, and looking at pods takes none: `Moment.Prompt`. So all of the
time is spent in pauses, and the bound is that of the pauses, without what the calls would add. The
interval between two looks is positive. With an interval of zero a wait whose pods are not ready
never pauses and never comes to its deadline, because its clock stands still, so there is no time at
which it would be over; the rounds of the model run out all the same, and nothing is concluded from
that.

* `waitForSelector`: the wait for the pods of one selector.
* `waitForPods_timely`: the waits for all of them.
* `waitForPods_late`: two selectors whose pods are ready late. They are waited for longer than
  the deadline.
-/

set_option autoImplicit false

namespace Moorage

open Exchange (Replays)

/-- What an exchange does to the moment when sleeps are exact and it takes no time to look at
pods. -/
def Moment.Prompt (m : Moment) (x : Exchange Service.interface) (m' : Moment) : Prop :=
  m.Passes x m' ∧ ∀ access selector, x.call = .podsReady access selector → m'.now = m.now

namespace Health

/-- The pods under a selector are reported ready at the time. The report is an exchange of the
run, and the time is the one right after it. -/
def ReadyAt (access : ClusterAccess) (before : Moment) (log : Exchanges) (after : Moment)
    (selector : String) (time : Nat) : Prop :=
  ∃ first rest m m', log = first ++ (⟨.podsReady access selector, .ok true⟩ :: rest) ∧
    Replays Moment.Prompt before first m ∧ m.Prompt ⟨.podsReady access selector, .ok true⟩ m' ∧
    Replays Moment.Prompt m' rest after ∧ m.now = time

/-- The second time is not before the first, and no later than a deadline after it. It links the
reports of one selector and the next. -/
def Within (policy : PollPolicy) (a b : Nat) : Prop := a ≤ b ∧ b ≤ a + policy.deadline.nanos

/-- How a wait that starts at a moment fails and when: at its deadline, or when it is cancelled. A
look at pods never fails, so there is no third way. -/
inductive Fails (policy : PollPolicy) (owner : String) (start after : Moment) : Error → Prop
  | late {error : Error} (timeout : error = Poll.timeout policy owner "health check")
      (now : after.now = start.now + policy.deadline.nanos) : Fails policy owner start after error
  | cancelled {error : Error} (stopped : error = .cancelled owner "health check")
      (cancelled : after.cancelled = true) : Fails policy owner start after error

variable {access : ClusterAccess} {policy : PollPolicy} {owner selector : String}
  {log : Exchanges} {before after : Moment} {result : Except Error Unit}

/-- A report that stands in the second part of a run stands there in the whole of it, at the same
time. The first part only passes the time. -/
theorem ReadyAt.append {first : Exchanges} {between : Moment} {time : Nat}
    (hfirst : Replays Moment.Prompt before first between)
    (h : ReadyAt access between log after selector time) :
    ReadyAt access before (first ++ log) after selector time := by
  obtain ⟨earlier, rest, m, m', rfl, hearlier, hready, hrest, htime⟩ := h
  refine ⟨first ++ earlier, rest, m, m', ?_, ?_, hready, hrest, htime⟩
  · rw [List.append_assoc]
  · exact Exchange.replays_append_iff.mpr ⟨between, hfirst, hearlier⟩

/-- A report that stands in a run stands there when the run goes on. What follows cannot take it
back. -/
theorem ReadyAt.append_right {later : Exchanges} {between : Moment} {time : Nat}
    (h : ReadyAt access before log between selector time)
    (hlater : Replays Moment.Prompt between later after) :
    ReadyAt access before (log ++ later) after selector time := by
  obtain ⟨first, rest, m, m', rfl, hfirst, hready, hrest, htime⟩ := h
  refine ⟨first, rest ++ later, m, m', ?_, hfirst, hready, ?_, htime⟩
  · rw [List.append_assoc, List.cons_append]
  · exact Exchange.replays_append_iff.mpr ⟨between, hrest, hlater⟩

/-- A look at pods is over at once. This is the assumption that calls answer promptly, put to
use. -/
theorem finish_of_course {c : Poll.Check}
    (hyields : (podsSettled access selector).Yields c.own c.outcome)
    (hreplays : Replays Moment.Prompt c.start c.own c.finish) : c.finish.now = c.start.now := by
  obtain ⟨answer, hown, -⟩ := exists_answer_of_yields hyields
  rw [hown] at hreplays
  obtain ⟨m', hprompt, hnil⟩ := Exchange.replays_cons_iff.mp hreplays
  rw [← Exchange.replays_nil_iff.mp hnil]
  exact hprompt.2 access selector rfl

/-- The pods of one selector are waited for until the deadline at most, and if they are ready, they
are so when the wait is over. The wait fails at its deadline, or because it is cancelled. As it
pauses between its looks at the pods, its rounds do not run out before. -/
theorem waitForSelector (hinterval : 0 < policy.interval.nanos)
    (hyields : (poll policy owner "health check" (podsSettled access selector)).Yields log result)
    (hreplays : Replays Moment.Prompt before log after) :
    Within policy before.now after.now ∧
      (result = .ok () → ReadyAt access before log after selector after.now) ∧
      ∀ error, result = .error error → Fails policy owner before after error := by
  obtain ⟨checks, hcourse, hwaited⟩ :=
    Poll.exists_waited_of_rounds (fun _ _ _ h => h.1) hyields hreplays
  have hinstant : ∀ c ∈ checks, c.finish.now = c.start.now := by
    intro c hc
    obtain ⟨hcheck, _, _, _, _, hown, _⟩ := hcourse.exists_of_mem hc
    exact finish_of_course hcheck hown
  have hprecedes := Moment.precedes_of_replays (hreplays.map id fun _ _ _ h => h.1)
  have hafter := hwaited.after_le hinstant (Nat.le_add_right _ _)
  refine ⟨⟨hprecedes.now, hafter⟩, ?_, ?_⟩
  · rintro rfl
    -- The check that held is the last, and its one exchange is the report.
    obtain ⟨c, hc, hout, rfl⟩ := hwaited.exists_held
    obtain ⟨hcheck, first, rest, rfl, hfirst, hown, hrest⟩ := hcourse.exists_of_mem hc
    obtain ⟨answer, howneq, houteq⟩ := exists_answer_of_yields hcheck
    rw [howneq] at hown ⊢
    obtain ⟨m', hready, hnil⟩ := Exchange.replays_cons_iff.mp hown
    obtain rfl := Exchange.replays_nil_iff.mp hnil
    rw [hout, Except.ok.injEq] at houteq
    obtain rfl : answer = .ok true := by
      cases answer with
      | error error => cases houteq
      | ok ready => exact congrArg Except.ok houteq.symm
    exact ⟨first, rest, c.start, c.finish, rfl, hfirst, hready, hrest, (hinstant c hc).symm⟩
  · rintro error rfl
    have hsome : policy.attempts ≠ 0 := Nat.ne_of_gt (Poll.attempts_pos policy)
    cases hbefore : before.cancelled with
    | true =>
        obtain ⟨-, heq, rfl⟩ := hwaited.eq_stopped hsome hbefore
        exact .cancelled (Except.error.inj heq) hbefore
    | false =>
        -- There is a last check, and what it came to is how the wait ends.
        obtain ⟨c, hlast⟩ : ∃ c, checks.getLast? = some c :=
          ⟨_, List.getLast?_eq_some_getLast (hwaited.ne_nil hsome hbefore)⟩
        obtain ⟨hcheck, -⟩ := hcourse.exists_of_mem (List.mem_of_getLast? hlast)
        obtain ⟨answer, -, hanswer⟩ := exists_answer_of_yields hcheck
        rcases hwaited.ends_of_getLast (fun _ => Poll.pausesLeft_lt_attempts hinterval _) _ hlast with
          hends | hspent
        · cases hends with
          | broken outcome => cases outcome.symm.trans hanswer
          | late _ passed => exact .late rfl (Nat.le_antisymm hafter passed)
          | cut _ _ _ _ cancelled => exact .cancelled rfl cancelled
        · exact absurd hspent.pauseless (Nat.ne_of_gt hinterval)

/-- A health check with pauses between its looks is over by as many deadlines as there are
selectors. When it succeeds the pods of each selector are reported ready, one after the other, each
within a deadline of the one before. When it fails, it was cancelled, or the deadline of one of its
waits has come.

The interval has to be positive: `Poll.Waited.length_eq_of_pauseless` shows that a wait without
pauses, on whose looks no time is spent, has no end as long as its pods are not ready. -/
theorem waitForPods_timely {selectors : List String} (hinterval : 0 < policy.interval.nanos)
    (hyields : (waitForPods access policy owner selectors).Yields log result)
    (hreplays : Replays Moment.Prompt before log after) :
    after.now ≤ before.now + selectors.length * policy.deadline.nanos ∧
      (result = .ok () → ∃ times,
        List.Forall₂ (ReadyAt access before log after) selectors times ∧
        (before.now :: times).IsChain (Within policy) ∧
        times.getLastD before.now = after.now) ∧
      ∀ error, result = .error error →
        ∃ start : Moment, before.now ≤ start.now ∧ Fails policy owner start after error := by
  -- The deadline of each wait counts from where the one before left the clock.
  induction selectors generalizing before log with
  | nil =>
      obtain ⟨rfl, rfl⟩ := Action.yields_pure_iff.mp hyields
      obtain rfl := Exchange.replays_nil_iff.mp hreplays
      exact ⟨Nat.le_add_right _ _, fun _ => ⟨[], .nil, .singleton _, rfl⟩, nofun⟩
  | cons selector selectors ih =>
      rw [List.length_cons, Nat.succ_mul]
      rcases Action.yields_then_iff.mp hyields with
        ⟨error, hpoll, rfl⟩ | ⟨first, second, hpoll, hsecond, rfl⟩
      · obtain ⟨hwithin, -, hfails⟩ := waitForSelector hinterval hpoll hreplays
        have hafter := hwithin.2
        refine ⟨by omega, nofun, fun cause hcause => ?_⟩
        exact ⟨before, Nat.le_refl _, hfails cause hcause⟩
      · obtain ⟨between, hfirst, hlater⟩ := Exchange.replays_append_iff.mp hreplays
        obtain ⟨hwithin, hready, -⟩ := waitForSelector hinterval hpoll hfirst
        obtain ⟨hafter, hrest, hfails⟩ := ih hsecond hlater
        have hbetween := hwithin.2
        refine ⟨by omega, ?_, ?_⟩
        · intro hok
          obtain ⟨times, htimes, hchain, hlast⟩ := hrest hok
          refine ⟨between.now :: times, .cons ?_ ?_, ?_, ?_⟩
          · exact (hready rfl).append_right hlater
          · exact htimes.imp fun _ _ h => h.append hfirst
          · exact List.isChain_cons_cons.mpr ⟨hwithin, hchain⟩
          · rw [List.getLastD_cons]
            exact hlast
        · intro error herror
          obtain ⟨start, hstart, hfailed⟩ := hfails error herror
          exact ⟨start, hwithin.1.trans hstart, hfailed⟩

/-- A look every ten milliseconds, for fifty. Two selectors can take up to a hundred with it. -/
def brisk : PollPolicy := ⟨.ofMillis 10, .ofMillis 50⟩

/-- The pods of one selector are ready at once, and those of the other one when they are looked at
again. -/
def secondLook : Exchanges :=
  [⟨.deadline (.ofMillis 50), .ofMillis 50⟩, ⟨.isCancelled, false⟩, ⟨.podsReady {} "a", .ok true⟩,
    ⟨.deadline (.ofMillis 50), .ofMillis 50⟩, ⟨.isCancelled, false⟩, ⟨.podsReady {} "b", .ok false⟩,
    ⟨.now, .ofMillis 0⟩, ⟨.pause (.ofMillis 10), false⟩, ⟨.isCancelled, false⟩,
    ⟨.podsReady {} "b", .ok true⟩]

/-- The pods of two selectors, the second of which are ready at the second look. The wait for the
first takes no time, and that for the second one pause. -/
theorem waitForPods_timely_secondLook :
    0 < brisk.interval.nanos ∧
      (waitForPods {} brisk "helm.app" ["a", "b"]).Yields secondLook (.ok ()) ∧
      Replays Moment.Prompt ⟨0, false⟩ secondLook ⟨10000000, false⟩ ∧
      10000000 ≤ 0 + 2 * brisk.deadline.nanos ∧
      ∃ times, List.Forall₂
          (ReadyAt {} ⟨0, false⟩ secondLook ⟨10000000, false⟩) ["a", "b"] times ∧
        (0 :: times).IsChain (Within brisk) ∧ times.getLastD 0 = 10000000 := by
  have hyields : (waitForPods {} brisk "helm.app" ["a", "b"]).Yields secondLook (.ok ()) :=
    .ask _ (.ask _ (.ask _ (.ask _ (.ask _ (.ask _ (.ask _ (.ask _ (.ask _ (.ask _ (.done _))))))))))
  have hreplays : Replays Moment.Prompt ⟨0, false⟩ secondLook ⟨10000000, false⟩ := by
    -- One line for each of the waits, the second of which has a pause.
    refine .cons ⟨⟨rfl, rfl⟩, nofun⟩ (.cons ⟨⟨rfl, rfl⟩, nofun⟩ (.cons ⟨.refl _, fun _ _ _ => rfl⟩ ?_))
    refine .cons ⟨⟨rfl, rfl⟩, nofun⟩ (.cons ⟨⟨rfl, rfl⟩, nofun⟩ (.cons ⟨.refl _, fun _ _ _ => rfl⟩ ?_))
    have hpause : Moment.Prompt ⟨0, false⟩ ⟨.pause (.ofMillis 10), false⟩ ⟨10000000, false⟩ :=
      ⟨⟨⟨Nat.zero_le _, id⟩, rfl⟩, nofun⟩
    refine .cons ⟨⟨rfl, rfl⟩, nofun⟩ (.cons hpause ?_)
    exact .cons ⟨⟨rfl, rfl⟩, nofun⟩ (.cons ⟨.refl _, fun _ _ _ => rfl⟩ (.nil _))
  have hinterval : 0 < brisk.interval.nanos := by decide
  obtain ⟨hbound, hready, -⟩ := waitForPods_timely hinterval hyields hreplays
  exact ⟨hinterval, hyields, hreplays, hbound, hready rfl⟩

open Rehearsal

/-- A world in which the pods of two selectors are ready when they are looked at for the fifth
time. -/
def bothLate : World where
  pods := [("app=a", [.ok false, .ok false, .ok false, .ok false, .ok true]),
    ("app=b", [.ok false, .ok false, .ok false, .ok false, .ok true])]

/-- The health check succeeds, but after eighty milliseconds of fifty, as the second wait starts
when most of the deadline has passed. -/
theorem waitForPods_late :
    (Turn.perform 0 (waitForPods {} brisk "helm.consul" ["app=a", "app=b"]) bothLate).1.isOk =
        true ∧
      (Turn.perform 0 (waitForPods {} brisk "helm.consul" ["app=a", "app=b"]) bothLate).2.clock =
        .ofMillis 80 ∧ brisk.deadline = .ofMillis 50 := by
  decide +kernel

end Health

end Moorage
