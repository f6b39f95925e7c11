import Moorage.Rehearsal.Turn
import Moorage.Walk.Task

/-!
# `Moorage.Rehearsal.Stage`: walks in a rehearsal

The tasks of a walk take turns. Started tasks go first, each up to its first
sleep; then a cancellation that is due takes effect; then the walk takes in the
tasks that ended, in the order in which they did, and starts others. When
everything is asleep the clock moves on to the next instant at which something
happens.

* `Stage.round`: one round of these.
* `Stage.rehearse`: a whole walk.
-/

set_option autoImplicit false

namespace Moorage.Rehearsal

/-- A task that sleeps. -/
structure Sleeper where
  position : Nat
  due : Duration
  cuttable : Bool
  resume : (cut : Bool) → World → Turn (Except Error Unit)

/-- A walk under way in a world. -/
structure Stage where
  walk : Walk
  world : World
  /-- The tasks to be started. -/
  starting : List Nat := []
  /-- The tasks asleep, in the order in which they went to sleep. -/
  sleepers : List Sleeper := []
  /-- The tasks that ended, in the order in which they did. -/
  ended : List (Nat × Except Error Unit) := []

namespace Stage

variable (settings : Settings) (g : Graph)

/-- The stage after a task went as far as it could. -/
def take (s : Stage) (position : Nat) : Turn (Except Error Unit) → Stage
  | .finished outcome w =>
      { s with world := w, ended := s.ended ++ [(position, Turn.outcomeOf position outcome)] }
  | .asleep due cuttable resume w =>
      { s with world := w, sleepers := s.sleepers ++ [⟨position, due, cuttable, resume⟩] }

/-- Starts the task of one resource. -/
def startOne (s : Stage) (position : Nat) : Stage :=
  s.take position (Turn.play position (Walk.task settings g s.walk.kind position).run s.world)

/-- Starts every task that is to be started. -/
def startAll (s : Stage) : Stage :=
  s.starting.foldl (startOne settings g) { s with starting := [] }

/-- Lets the given tasks go on, and every other one sleep. -/
def wake (s : Stage) (cut : Bool) (wakes : Sleeper → Bool) : Stage :=
  let woken := s.sleepers.filter wakes
  let s := { s with sleepers := s.sleepers.filter fun sleeper => !wakes sleeper }
  woken.foldl (fun s sleeper => s.take sleeper.position (sleeper.resume cut s.world)) s

/-- Lets a cancellation that is due cut the sleep of the tasks. -/
def cancelDue (s : Stage) : Stage :=
  let (struck, w) := s.world.cancelDue
  let s := { s with world := w }
  if struck then s.wake true Sleeper.cuttable else s

/-- Lets the walk make its moves on the board of the world. -/
def move (s : Stage) (change : Walk → Walk) : Stage :=
  let walk := change { s.walk with board := s.world.board }
  let (walk, started) := walk.drain g s.world.cancelled (Walk.moveLimit g)
  { s with
    walk := walk
    world := { s.world with board := walk.board }
    starting := s.starting ++ started }

/-- Takes in every task that ended. -/
def collect (s : Stage) : Stage :=
  s.ended.foldl
    (fun s entry => s.move g fun walk => walk.finish g entry.1 entry.2)
    { s with ended := [] }

/-- The next instant at which something happens. -/
def nextInstant (s : Stage) : Option Nat :=
  (s.sleepers.map (·.due.nanos) ++ s.world.nextCancellation.toList).min?

/-- One round, and whether another one follows: the walk is over when nothing is
started and nothing sleeps. -/
def round (s : Stage) : Bool × Stage :=
  let s := (s.startAll settings g).cancelDue.collect g
  if !s.starting.isEmpty then (true, s)
  else
    match s.sleepers, s.nextInstant with
    | _ :: _, some instant =>
        let s := { s with world := { s.world with clock := ⟨instant⟩ } }
        (true, s.wake false fun sleeper => sleeper.due.nanos ≤ instant)
    | _, _ => (false, s)

/-- The stage after at most `limit` rounds. -/
def rounds : (limit : Nat) → Stage → Stage
  | 0, s => s
  | limit + 1, s =>
      match s.round settings g with
      | (true, s) => rounds limit s
      | (false, s) => s

/-- More rounds than any walk takes. -/
def roundLimit : Nat := Nat.pow 2 62

/-- What a whole walk comes to, and the world then. -/
def rehearse (kind : WalkKind) (w : World) : Except Error Unit × World :=
  let s : Stage := { walk := Walk.begin g kind w.board, world := w }
  let s := rounds settings g roundLimit (s.move g id)
  (s.walk.result, s.world)

end Stage

end Moorage.Rehearsal
