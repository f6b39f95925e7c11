import Moorage.Proofs.Service.Moment
import Moorage.Rehearsal.Turn

/-!
# `Moorage.Proofs.Rehearsal.Clock`: the time of a rehearsal

A program that is alone in a world is answered call by call, after a sleep where there is one.
`World.Answers` is one such exchange, and a run that does not crash is a sequence of them
(`exists_replays_of_settle`).

The clock of a world is one for which sleeps are exact: `World.moment` follows
`Moment.Passes`, so that what is proved of those holds of rehearsals. There are two sorts of sleep.
A program that pauses may be cut short by a cancellation, and a call that takes its time in the
script may not. In both, cancellations that fall due on the way take place, and the clock stops at
the end of the sleep or at the cancellation that cut it, never beyond.

Everything else in a world takes no time, `Timeless`: answers of the script change what there is,
and the clock is left alone. A call with a deadline that no instant can hold is not answered at all,
and a run that has one crashes. This is why the theorems are about runs that come to a value.

* `slept_sleepUntil`: what a sleep does to the clock.
* `passes_of_answers`: every call takes its time.
* `exists_passes_of_settle`: a whole run does.
-/

set_option autoImplicit false

namespace Moorage.Rehearsal

variable {α : Type} {owner : Nat} {w w' : World}

/-! ### One call after the other -/

/-- What becomes of a call while nobody else acts. A sleep is slept at once then. -/
def Encounter.alone : Encounter α → Except String α × World
  | .answered outcome w => (outcome, w)
  | .wait due cuttable resume w =>
      resume (w.sleepUntil due cuttable).1 (w.sleepUntil due cuttable).2

/-- The world answers a call of the resource at position `owner`, and then it is another. A call
that crashes has no answer. -/
def World.Answers (owner : Nat) (w : World) (x : Exchange Service.interface) (w' : World) : Prop :=
  (w.meet owner x.call).alone = (.ok x.answer, w')

/-- The rest of a program, when a call of it came to an answer or crashed. -/
def Turn.resume (owner : Nat) {call : Service.interface.Call}
    (next : Service.interface.Answer call → Program Service.interface α) :
    Except String (Service.interface.Answer call) × World → Turn α
  | (.ok answer, w) => play owner (next answer) w
  | (.error message, w) => .finished (.error message) w

/-- Where a program asks, the call is met by itself, and the rest of the program goes on from what
it came to. Sleeps on the way are part of the meeting. -/
theorem Turn.settle_play_ask {call : Service.interface.Call}
    {next : Service.interface.Answer call → Program Service.interface α} :
    (Turn.play owner (.ask call next) w).settle =
      (Turn.resume owner next (w.meet owner call).alone).settle := by
  unfold Turn.play
  cases w.meet owner call with
  | answered outcome w =>
      cases outcome with
      | ok answer => rfl
      | error message => rfl
  | wait due cuttable resume w =>
      rw [Turn.settle, Encounter.alone]
      -- The sleep and what is resumed are computed alike on both sides.
      cases w.sleepUntil due cuttable with
      | mk cut w =>
          dsimp only
          cases resume cut w with
          | mk outcome w =>
              cases outcome with
              | ok answer => rfl
              | error message => rfl

/-- A run to the end is answered call by call. So what is proved of all logs holds of rehearsals. -/
theorem exists_replays_of_settle {program : Program Service.interface α} {value : α}
    (h : (Turn.play owner program w).settle = (.ok value, w')) :
    ∃ log, program.Yields log value ∧ Exchange.Replays (World.Answers owner) w log w' := by
  -- By induction on the program, of which each answer leaves a smaller one to be settled.
  induction program generalizing w with
  | done result =>
      cases h
      exact ⟨[], .done _, .nil _⟩
  | ask call next ih =>
      rw [Turn.settle_play_ask] at h
      cases hmeet : (w.meet owner call).alone with
      | mk outcome between =>
          rw [hmeet] at h
          cases outcome with
          | error message => cases h
          | ok answer =>
              obtain ⟨log, hyields, hreplays⟩ := ih answer h
              refine ⟨⟨call, answer⟩ :: log, ?_, .cons hmeet hreplays⟩
              exact Program.yields_ask_iff.mpr ⟨answer, log, hyields, rfl⟩

/-! ### Sleeps -/

/-- What a wait can see of a world. This is the time and whether the work is cancelled. -/
def World.moment (w : World) : Moment := ⟨w.clock.nanos, w.cancelled⟩

/-- A sleep until the instant `due` leads to the world, after a cancellation if it is cut. A sleep
that is not cut ends at that instant exactly. -/
structure Slept (w : World) (due : Duration) (cut : Bool) (w' : World) : Prop where
  precedes : w.moment.Precedes w'.moment
  soon : w'.clock.nanos ≤ due.nanos
  whole : cut = false → w'.clock = due
  cut : cut = true → w'.cancelled = true

namespace World

/-- Cancellations that are due take place without the clock going on. They are taken off the
script. -/
theorem cancelDue_clock (w : World) : w.cancelDue.2.clock = w.clock := by
  unfold cancelDue
  split
  · rfl
  · rfl

/-- Cancellations that are due may cancel the work, and take no cancellation back. -/
theorem precedes_cancelDue (w : World) : w.moment.Precedes w.cancelDue.2.moment := by
  refine ⟨Nat.le_of_eq (congrArg Duration.nanos (cancelDue_clock w)).symm, ?_⟩
  intro hcancelled
  unfold cancelDue
  split
  · rfl
  · exact hcancelled

/-- Where a cancellation was due the work is cancelled afterwards. -/
theorem cancelled_of_cancelDue (h : w.cancelDue.1 = true) : w.cancelDue.2.cancelled = true := by
  unfold cancelDue at h ⊢
  split at h
  · rename_i hdue
    rw [if_pos hdue]
  · cases h

/-- What is due has happened, so every other cancellation is yet to come. The clock can go on up
to the next one. -/
theorem lt_nextCancellation {instant : Nat}
    (h : w.cancelDue.2.nextCancellation = some instant) : w.clock.nanos < instant := by
  obtain ⟨at_, hmem, rfl⟩ := List.mem_map.mp (List.min?_mem h)
  unfold cancelDue at hmem
  split at hmem
  · exact of_decide_eq_true (List.mem_filter.mp hmem).2
  · rename_i hnone
    rw [List.any_eq_true] at hnone
    exact Nat.lt_of_not_le fun hle => hnone ⟨at_, hmem, decide_eq_true hle⟩

/-- When the clock has come to the next cancellation, it is due. So a sleep that is cut there
finds the work cancelled. -/
theorem cancelDue_of_nextCancellation {instant : Nat} (h : w.nextCancellation = some instant) :
    (cancelDue { w with clock := ⟨instant⟩ }).1 = true := by
  obtain ⟨at_, hmem, rfl⟩ := List.mem_map.mp (List.min?_mem h)
  unfold cancelDue
  rw [if_pos]
  exact List.any_eq_true.mpr ⟨at_, hmem, decide_eq_true (Nat.le_refl _)⟩

/-- A sleep to its end, with nothing but the clock changed, or the work cancelled as well. The
sleeps that are not cut are of this kind. -/
theorem slept_of_clock_eq {due : Duration} (hcancelled : w.cancelled = true → w'.cancelled = true)
    (hdue : w.clock.nanos ≤ due.nanos) (hclock : w'.clock = due) : Slept w due false w' where
  precedes := by
    refine ⟨?_, hcancelled⟩
    show w.clock.nanos ≤ w'.clock.nanos
    rw [hclock]
    exact hdue
  soon := Nat.le_of_eq (congrArg Duration.nanos hclock)
  whole _ := hclock
  cut h := by cases h

/-- A sleep ends at its instant or is cut by a cancellation before it, and it never starts where
one is due already. A sleep that cannot be cut goes on to its end, past all cancellations on the
way. -/
theorem slept_sleepUntil {due : Duration} (cuttable : Bool) (hdue : w.clock.nanos ≤ due.nanos) :
    Slept w due (w.sleepUntil due cuttable).1 (w.sleepUntil due cuttable).2 := by
  have hclock := cancelDue_clock w
  have hcancelled := (precedes_cancelDue w).cancelled
  have hstruck := cancelled_of_cancelDue (w := w)
  have hnext := @lt_nextCancellation w
  unfold sleepUntil
  generalize w.cancelDue = due at hclock hcancelled hstruck hnext
  obtain ⟨struck, w₁⟩ := due
  dsimp only at hclock hcancelled hstruck hnext ⊢
  split
  · -- A cancellation that is due already cuts the sleep before it begins.
    rename_i hcut
    refine ⟨⟨Nat.le_of_eq (congrArg Duration.nanos hclock.symm), hcancelled⟩, ?_, ?_, ?_⟩
    · exact hclock ▸ hdue
    · intro h
      cases h
    · exact fun _ => hstruck (Bool.and_eq_true_iff.mp hcut).1
  · split
    · exact slept_of_clock_eq hcancelled hdue rfl
    · rename_i instant hinstant
      split
      · exact slept_of_clock_eq hcancelled hdue rfl
      · rename_i hahead
        split
        · -- The next cancellation comes before the end of the sleep.
          have hlater := precedes_cancelDue { w₁ with clock := ⟨instant⟩ }
          refine ⟨⟨?_, hlater.cancelled ∘ hcancelled⟩, ?_, ?_, ?_⟩
          · exact Nat.le_trans (Nat.le_of_lt (hnext hinstant)) hlater.now
          · rw [cancelDue_clock]
            exact Nat.le_of_not_le hahead
          · intro h
            cases h
          · exact fun _ => cancelled_of_cancelDue (cancelDue_of_nextCancellation hinstant)
        · exact slept_of_clock_eq (fun _ => rfl) hdue rfl

end World

/-! ### The time of a call -/

/-- An effect that takes no time and cancels nothing. Time passes in a call by its part in the
script only. -/
def Timeless (effect : World → Except Error α × World) : Prop :=
  ∀ w, (effect w).2.moment = w.moment

/-- A call that the script lets fail has no effect, and any other one has its own. In both cases
no time passes. -/
theorem moment_settle {mishap : Option Mishap} {effect : World → Except Error α × World}
    (heffect : Timeless effect) (w : World) :
    (World.settle mishap effect w).2.moment = w.moment := by
  unfold World.settle
  split
  · rfl
  · rfl
  · exact heffect w

/-- A call with a part in the script takes as long as that says. It may be no time at all. -/
theorem precedes_of_scripted {call key : String} {arguments : List Json} {answer : Except Error α}
    {effect : World → Except Error α × World} (heffect : Timeless effect)
    (h : (w.scripted call key arguments effect).alone = (.ok answer, w')) :
    w.moment.Precedes w'.moment := by
  obtain rfl : (w.scripted call key arguments effect).alone.2 = w' := congrArg Prod.snd h
  unfold World.scripted
  dsimp only
  split
  · rw [Encounter.alone, moment_settle heffect]
    exact .refl _
  · rw [Encounter.alone, moment_settle heffect]
    exact (World.slept_sleepUntil (w := { w.noted call arguments with failures := _, delays := _ })
      false (Nat.le_add_right _ _)).precedes

/-- To remove a container, or to find none, takes no time. -/
theorem timeless_dropVessel (id : String) : Timeless (World.dropVessel id) := by
  intro w
  unfold World.dropVessel
  split <;> rfl

/-- To remove a network, or to find none, takes no time. -/
theorem timeless_dropNetwork (id : String) : Timeless (World.dropNetwork id) := by
  intro w
  unfold World.dropNetwork
  split <;> rfl

/-- To read a file of a container takes no time. -/
theorem timeless_innerFile (path : String) : Timeless (World.innerFile path) := by
  intro w
  unfold World.innerFile
  split <;> rfl

/-- To answer for pods takes one answer of the script, and no time. -/
theorem timeless_podAnswer (selector : String) : Timeless (World.podAnswer selector) := by
  intro w
  unfold World.podAnswer
  split <;> rfl

/-- An instant that the clock can reach is the span ahead; another one is never answered. The
world crashes there. -/
theorem passes_of_deadline {span deadline : Duration}
    (h : (w.meet owner (.deadline span)).alone = (.ok deadline, w')) :
    w.moment.Passes ⟨.deadline span, deadline⟩ w'.moment := by
  unfold World.meet at h
  dsimp only at h
  split at h
  · cases h
    exact ⟨rfl, rfl⟩
  · cases h

/-- A pause is a sleep that may be cut. After a cancellation there is no sleep at all, so it is
cut when it begins. -/
theorem passes_of_pause {span : Duration} {cut : Bool}
    (h : (w.meet owner (.pause span)).alone = (.ok cut, w')) :
    w.moment.Passes ⟨.pause span, cut⟩ w'.moment := by
  unfold World.meet at h
  dsimp only at h
  -- After a cancellation there is no sleep, and neither is there one of no length.
  split at h
  · rename_i hcancelled
    cases h
    exact ⟨.refl _, Nat.le_add_right _ _, hcancelled⟩
  · split at h
    · rename_i hzero
      cases h
      exact ⟨.refl _, (congrArg (w.clock.nanos + ·) hzero).symm⟩
    · have hslept := World.slept_sleepUntil (w := w) true (Nat.le_add_right _ span.nanos)
      cases h
      generalize w.sleepUntil ⟨w.clock.nanos + span.nanos⟩ true = slept at hslept
      obtain ⟨cut, w'⟩ := slept
      cases cut with
      | false => exact ⟨hslept.precedes, congrArg Duration.nanos (hslept.whole rfl)⟩
      | true => exact ⟨hslept.precedes, hslept.soon, hslept.cut rfl⟩

/-- Ports are drawn at once. A call without room for them crashes, and is never answered. -/
theorem moment_of_allocatePorts {count : Nat} {answer : Except Error (List UInt16)}
    (h : (w.meet owner (.allocatePorts count)).alone = (.ok answer, w')) : w'.moment = w.moment := by
  obtain rfl : (w.takePorts count).2 = w' := congrArg Prod.snd h
  rfl

/-- A world answers as one in which sleeps are exact. There is one case for each call of a
provider. -/
theorem passes_of_answers {x : Exchange Service.interface} (h : w.Answers owner x w') :
    w.moment.Passes x w'.moment := by
  obtain ⟨call, answer⟩ := x
  unfold World.Answers at h
  cases call with
  -- What waits ask for has an effect of its own, and everything else takes the time of its answer.
  | now | isCancelled =>
      cases h
      exact ⟨rfl, rfl⟩
  | deadline => exact passes_of_deadline h
  | pause => exact passes_of_pause h
  | createDirectories | writeFile | removeTree | pathExists | isDirectory | freshToken
  | recordChild =>
      cases h
      exact .refl _
  | allocatePorts =>
      show w.moment.Precedes w'.moment
      rw [moment_of_allocatePorts h]
      exact .refl _
  | removeContainer => exact precedes_of_scripted (timeless_dropVessel _) h
  | removeNetwork => exact precedes_of_scripted (timeless_dropNetwork _) h
  | copyFromContainer => exact precedes_of_scripted (timeless_innerFile _) h
  | podsReady => exact precedes_of_scripted (timeless_podAnswer _) h
  | _ => exact precedes_of_scripted (fun _ => rfl) h

/-- What is proved of exchanges for which sleeps are exact holds of a rehearsal to its end. So the
statements about time apply to rehearsals. -/
theorem exists_passes_of_settle {program : Program Service.interface α} {value : α}
    (h : (Turn.play owner program w).settle.1 = .ok value) :
    ∃ log, program.Yields log value ∧ Exchange.Replays Moment.Passes w.moment log
      (Turn.play owner program w).settle.2.moment := by
  obtain ⟨log, hyields, hreplays⟩ := exists_replays_of_settle (Prod.ext h rfl)
  exact ⟨log, hyields, hreplays.map World.moment fun _ _ _ => passes_of_answers⟩

end Moorage.Rehearsal
