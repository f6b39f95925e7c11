import Moorage.Proofs.Poll
import Moorage.Proofs.Service.Moment

/-!
# `Moorage.Proofs.Poll.Course`: the checks of a wait

A run of a wait is a row of checks with pauses in between. `Course` sets the checks of a run
apart from the exchanges of the wait itself. `Waited` is what is left of `Waits` when each check
is told by when it started, what it came to and when it was over.

The checks are arbitrary programs, so they take as long as they like. Of the exchanges nothing is
assumed but that each of them takes its time, `Moment.Passes`.

* `rounds`: a wait with a number of rounds of its own.
* `Course.exists_of_mem`: where a check stands in a run.
* `exists_waited_of_rounds`: the checks of a run, and the wait in terms of them.
-/

set_option autoImplicit false

namespace Moorage.Poll

/-- `poll` with so many rounds. The number is left open, since it stands for a loop without a
bound; with the one of the policy it is `poll` itself. -/
def rounds (policy : PollPolicy) (owner step : String) (check : Action Bool) (attempts : Nat) :
    Action Unit := do
  let deadline ← Service.deadline policy.deadline
  waitUntil policy owner step check deadline attempts

/-- A check of a wait: when it started, its exchanges, what it came to, and when it was over. It
takes the time that its exchanges take. -/
structure Check where
  start : Moment
  own : Exchanges
  outcome : Except Error Bool
  finish : Moment

/-- The exchanges that a wait makes apart from its checks. Where it sees that the work was not
cancelled, a check follows. -/
def Between : Exchange Service.interface → Prop
  | ⟨.deadline _, _⟩ | ⟨.now, _⟩ | ⟨.pause _, _⟩ | ⟨.isCancelled, true⟩ => True
  | _ => False

/-- The run of a wait with its checks set apart. Each exchange has the effect that is given, on
the time and on whether the work is cancelled. -/
inductive Course (effect : Moment → Exchange Service.interface → Moment → Prop)
    (check : Action Bool) : Moment → List Check → Exchanges → Moment → Prop
  | done (m : Moment) : Course effect check m [] [] m
  | between {before m after : Moment} {checks : List Check} {x : Exchange Service.interface}
      {log : Exchanges} (hx : Between x) (passes : effect before x m)
      (rest : Course effect check m checks log after) :
      Course effect check before checks (x :: log) after
  | checked {before after : Moment} {c : Check} {checks : List Check} {log : Exchanges}
      (passes : effect before ⟨.isCancelled, false⟩ c.start) (yields : check.Yields c.own c.outcome)
      (replays : Exchange.Replays effect c.start c.own c.finish)
      (rest : Course effect check c.finish checks log after) :
      Course effect check before (c :: checks) (⟨.isCancelled, false⟩ :: (c.own ++ log)) after

/-- How a wait ends with its last check: right after it, or in the pause that follows. The four
ways exclude each other. -/
inductive Ends (policy : PollPolicy) (owner step : String) (deadline : Nat) (c : Check) :
    Except Error Unit → Moment → Prop
  | held (outcome : c.outcome = .ok true) : Ends policy owner step deadline c (.ok ()) c.finish
  | broken {error : Error} (outcome : c.outcome = .error error) :
      Ends policy owner step deadline c (.error error) c.finish
  | late (outcome : c.outcome = .ok false) (passed : deadline ≤ c.finish.now) :
      Ends policy owner step deadline c (.error (timeout policy owner step)) c.finish
  | cut {after : Moment} (outcome : c.outcome = .ok false) (ahead : c.finish.now < deadline)
      (follows : c.finish.Precedes after)
      (soon : after.now ≤ c.finish.now + min policy.interval.nanos (deadline - c.finish.now))
      (cancelled : after.cancelled = true) :
      Ends policy owner step deadline c (.error (.cancelled owner step)) after

/-- A wait with at most so many checks, told by them alone. It is what a timing is proved of, by
induction on the checks. -/
inductive Waited (policy : PollPolicy) (owner step : String) (deadline : Nat) :
    Nat → Moment → List Check → Except Error Unit → Moment → Prop
  | spent {m : Moment} :
      Waited policy owner step deadline 0 m [] (.error (timeout policy owner step)) m
  | stopped {attempts : Nat} {m : Moment} (cancelled : m.cancelled = true) :
      Waited policy owner step deadline (attempts + 1) m [] (.error (.cancelled owner step)) m
  | last {attempts : Nat} {c : Check} {result : Except Error Unit} {after : Moment}
      (ongoing : c.start.cancelled = false) (lasts : c.start.Precedes c.finish)
      (ends : Ends policy owner step deadline c result after) :
      Waited policy owner step deadline (attempts + 1) c.start [c] result after
  | again {attempts : Nat} {c : Check} {m after : Moment} {checks : List Check}
      {result : Except Error Unit} (ongoing : c.start.cancelled = false)
      (lasts : c.start.Precedes c.finish) (outcome : c.outcome = .ok false)
      (ahead : c.finish.now < deadline) (follows : c.finish.Precedes m)
      (paused : m.now = c.finish.now + min policy.interval.nanos (deadline - c.finish.now))
      (next : Waited policy owner step deadline attempts m checks result after) :
      Waited policy owner step deadline (attempts + 1) c.start (c :: checks) result after

variable {policy : PollPolicy} {owner step : String} {check : Action Bool} {attempts : Nat}
  {m after : Moment} {checks : List Check} {log : Exchanges} {result : Except Error Unit}

/-! ### From exchanges to checks -/

section Effect

variable {effect : Moment → Exchange Service.interface → Moment → Prop}

namespace Course

/-- A run that is set apart into checks is still a run of the surroundings. So nothing is assumed
by setting it apart. -/
theorem replays (h : Course effect check m checks log after) :
    Exchange.Replays effect m log after := by
  induction h with
  | done m => exact .nil m
  | between _ passes _ ih => exact .cons passes ih
  | checked passes _ replays _ ih =>
      exact .cons passes (Exchange.replays_append_iff.mpr ⟨_, replays, ih⟩)

/-- Each of the checks has its place in the run. What is known of whole runs can be used of a
check so. -/
theorem exists_of_mem (h : Course effect check m checks log after) {c : Check}
    (hc : c ∈ checks) :
    check.Yields c.own c.outcome ∧ ∃ first rest, log = first ++ (c.own ++ rest) ∧
      Exchange.Replays effect m first c.start ∧ Exchange.Replays effect c.start c.own c.finish ∧
      Exchange.Replays effect c.finish rest after := by
  induction h with
  | done => cases hc
  | between _ passes _ ih =>
      obtain ⟨hyields, first, rest, rfl, hfirst, hown, hrest⟩ := ih hc
      exact ⟨hyields, _ :: first, rest, rfl, .cons passes hfirst, hown, hrest⟩
  | @checked _ _ d _ _ passes yields replays course ih =>
      rcases List.mem_cons.mp hc with rfl | hc
      · exact ⟨yields, [_], _, rfl, .cons passes (.nil _), replays, course.replays⟩
      · -- What comes before a later check are the exchanges of this one and what follows it.
        obtain ⟨hyields, first, rest, rfl, hfirst, hown, hrest⟩ := ih hc
        refine ⟨hyields, ⟨.isCancelled, false⟩ :: (d.own ++ first), rest, ?_, ?_, hown, hrest⟩
        · rw [List.cons_append, List.append_assoc]
        · exact .cons passes (Exchange.replays_append_iff.mpr ⟨_, replays, hfirst⟩)

end Course

variable (hpasses : ∀ m x m', effect m x m' → m.Passes x m')

include hpasses

/-- To read the clock takes no time. The answer is the moment at which it was read. -/
theorem of_replays_now {now : Duration}
    (h : Exchange.Replays effect m (⟨.now, now⟩ :: log) after) :
    now = ⟨m.now⟩ ∧ effect m ⟨.now, now⟩ m ∧ Exchange.Replays effect m log after := by
  obtain ⟨m', heffect, hrest⟩ := Exchange.replays_cons_iff.mp h
  obtain ⟨hnow, rfl⟩ := hpasses _ _ _ heffect
  exact ⟨hnow, heffect, hrest⟩

/-- A check starts at the moment of its round, as to ask about a cancellation takes no time. The
answer to that question was no. -/
theorem exists_check {own : Exchanges} {outcome : Except Error Bool}
    (hyields : check.Yields own outcome)
    (hreplays : Exchange.Replays effect m (⟨.isCancelled, false⟩ :: (own ++ log)) after) :
    ∃ c : Check, m = c.start ∧ c.start.cancelled = false ∧ c.start.Precedes c.finish ∧
      c.outcome = outcome ∧ Exchange.Replays effect c.finish log after ∧
      ∀ checks, Course effect check c.finish checks log after →
        Course effect check c.start (c :: checks) (⟨.isCancelled, false⟩ :: (own ++ log)) after := by
  obtain ⟨m', heffect, hrest⟩ := Exchange.replays_cons_iff.mp hreplays
  obtain ⟨finish, hown, hlater⟩ := Exchange.replays_append_iff.mp hrest
  obtain ⟨hongoing, rfl⟩ := hpasses _ _ _ heffect
  have hlasts := Moment.precedes_of_replays (hown.map id hpasses)
  refine ⟨⟨m', own, outcome, finish⟩, rfl, hongoing.symm, hlasts, rfl, hlater, ?_⟩
  intro checks hcourse
  exact .checked (c := ⟨m', own, outcome, finish⟩) heffect hyields hown hcourse

/-- The checks of a run, and what the wait is in terms of them. By induction on the rounds, with
one case for each way to end or to go on. -/
theorem exists_waited_of_waits {deadline : Duration}
    (h : Waits policy owner step check.Yields deadline attempts log result)
    (hreplays : Exchange.Replays effect m log after) :
    ∃ checks, Course effect check m checks log after ∧
      Waited policy owner step deadline.nanos attempts m checks result after := by
  -- Each round starts at the moment at which the pause of the one before left the clock.
  induction h generalizing m with
  | exhausted =>
      obtain rfl := Exchange.replays_nil_iff.mp hreplays
      exact ⟨[], .done m, .spent⟩
  | stopped =>
      obtain ⟨m', heffect, hnil⟩ := Exchange.replays_cons_iff.mp hreplays
      obtain rfl := Exchange.replays_nil_iff.mp hnil
      refine ⟨[], .between (x := ⟨.isCancelled, true⟩) trivial heffect (.done _), ?_⟩
      obtain ⟨hcancelled, rfl⟩ := hpasses _ _ _ heffect
      exact .stopped hcancelled.symm
  | @broken attempts own error hyields =>
      rw [← List.append_nil own] at hreplays ⊢
      obtain ⟨c, rfl, hongoing, hlasts, hout, hnil, hcourse⟩ :=
        exists_check hpasses hyields hreplays
      obtain rfl := Exchange.replays_nil_iff.mp hnil
      exact ⟨[c], hcourse [] (.done _), .last hongoing hlasts (.broken hout)⟩
  | @held attempts own hyields =>
      rw [← List.append_nil own] at hreplays ⊢
      obtain ⟨c, rfl, hongoing, hlasts, hout, hnil, hcourse⟩ :=
        exists_check hpasses hyields hreplays
      obtain rfl := Exchange.replays_nil_iff.mp hnil
      exact ⟨[c], hcourse [] (.done _), .last hongoing hlasts (.held hout)⟩
  | late hyields hpassed =>
      obtain ⟨c, rfl, hongoing, hlasts, hout, hend, hcourse⟩ :=
        exists_check hpasses hyields hreplays
      obtain ⟨rfl, hnow, hnil⟩ := of_replays_now hpasses hend
      obtain rfl := Exchange.replays_nil_iff.mp hnil
      exact ⟨[c], hcourse [] (.between (x := ⟨.now, _⟩) trivial hnow (.done _)),
        .last hongoing hlasts (.late hout hpassed)⟩
  | cut hyields hahead =>
      obtain ⟨c, rfl, hongoing, hlasts, hout, hend, hcourse⟩ :=
        exists_check hpasses hyields hreplays
      obtain ⟨rfl, hnow, hlast⟩ := of_replays_now hpasses hend
      obtain ⟨m', hpause, hnil⟩ := Exchange.replays_cons_iff.mp hlast
      obtain rfl := Exchange.replays_nil_iff.mp hnil
      refine ⟨[c], hcourse [] (.between (x := ⟨.now, _⟩) trivial hnow
        (.between (x := ⟨.pause _, true⟩) trivial hpause (.done _))), ?_⟩
      obtain ⟨hfollows, hsoon, hcancelled⟩ := hpasses _ _ _ hpause
      exact .last hongoing hlasts (.cut hout hahead hfollows hsoon hcancelled)
  | again hyields hahead _ ih =>
      obtain ⟨c, rfl, hongoing, hlasts, hout, hend, hcourse⟩ :=
        exists_check hpasses hyields hreplays
      obtain ⟨rfl, hnow, hlast⟩ := of_replays_now hpasses hend
      obtain ⟨m', hpause, hlater⟩ := Exchange.replays_cons_iff.mp hlast
      obtain ⟨checks, hrest, hwaited⟩ := ih hlater
      refine ⟨c :: checks, hcourse checks (.between (x := ⟨.now, _⟩) trivial hnow
        (.between (x := ⟨.pause _, false⟩) trivial hpause hrest)), ?_⟩
      obtain ⟨hfollows, hpaused⟩ := hpasses _ _ _ hpause
      exact .again hongoing hlasts hout hahead hfollows hpaused hwaited

/-- The checks of a run of so many rounds. The deadline counts from the start, where it was set. -/
theorem exists_waited_of_rounds
    (hyields : (rounds policy owner step check attempts).Yields log result)
    (hreplays : Exchange.Replays effect m log after) :
    ∃ checks, Course effect check m checks log after ∧
      Waited policy owner step (m.now + policy.deadline.nanos) attempts m checks result after := by
  obtain ⟨deadline, later, rfl, hwait⟩ := (Action.yields_call_bind_iff (.deadline _)).mp hyields
  obtain ⟨m', heffect, hlater⟩ := Exchange.replays_cons_iff.mp hreplays
  have hwaits : Waits policy owner step check.Yields deadline attempts later result :=
    waits_of_yields (fun _ _ h => h) hwait
  obtain ⟨checks, hcourse, hwaited⟩ := exists_waited_of_waits hpasses hwaits hlater
  refine ⟨checks, .between (x := ⟨.deadline _, deadline⟩) trivial heffect hcourse, ?_⟩
  obtain ⟨rfl, rfl⟩ := hpasses _ _ _ heffect
  exact hwaited

end Effect

end Moorage.Poll
