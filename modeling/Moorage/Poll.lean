import Moorage.Service
import Moorage.Settings

/-!
# `Moorage.Poll`: waiting for a condition

A condition is checked at once and then at intervals, until it holds, its check
fails, the deadline has passed or the work is cancelled. A wait with an interval of
zero does not pause, and how often it checks is up to the clock alone.

Programs are finite here, so a wait is given a number of rounds that it cannot use
up as long as there is an interval. Without one there is no such number: checks
that take no time would go on for good. The number that such a wait is given only
stands in for that, and nothing should be made of how it ends when it is used up.

* `PollPolicy.attempts`: how many checks a policy leaves room for.
* `poll`: the waiting itself.
-/

set_option autoImplicit false

namespace Moorage

/-- How often to check, and for how long. -/
structure PollPolicy where
  interval : Duration
  deadline : Duration
  deriving DecidableEq, Repr

namespace PollPolicy

/-- The policy of the settings. -/
def ofSettings (s : Settings) : PollPolicy := ⟨s.pollInterval, s.startTimeout⟩

/-- The checks that fit before the deadline, the one at the start and the one at
the deadline included, when every pause lasts as long as it should. With an interval
of zero there is no such number, as such a wait has no bound of its own; the number
here is a stand-in that no real wait comes to. -/
def attempts (p : PollPolicy) : Nat :=
  if p.interval.nanos = 0 then Nat.pow 2 64
  else (p.deadline.nanos + p.interval.nanos - 1) / p.interval.nanos + 1

end PollPolicy

namespace Poll

/-- The failure of a wait that takes too long. -/
def timeout (policy : PollPolicy) (owner step : String) : Error :=
  .timeout owner step policy.deadline

/-- Waits with at most `attempts` checks until the instant `deadline`. A check
always runs before the deadline is looked at, and no pause goes beyond it.

The timeout at zero attempts is there because the function has to end. A wait as
such does not count: it times out only after a check, when the deadline has passed.
With the attempts of a policy and an interval the deadline has passed before they
are used up. The count of the checks that a wait makes is for its messages only, and
is left out. -/
def waitUntil (policy : PollPolicy) (owner step : String) (check : Action Bool)
    (deadline : Duration) : (attempts : Nat) → Action Unit
  | 0 => throw (timeout policy owner step)
  | attempts + 1 => do
      if ← Service.isCancelled then throw (.cancelled owner step)
      if ← check then return
      let now ← Service.now
      if deadline.nanos ≤ now.nanos then throw (timeout policy owner step)
      let left : Duration := ⟨min policy.interval.nanos (deadline.nanos - now.nanos)⟩
      if ← Service.pause left then throw (.cancelled owner step)
      waitUntil policy owner step check deadline attempts

end Poll

/-- Waits until a check holds. The deadline counts from the start. -/
def poll (policy : PollPolicy) (owner step : String) (check : Action Bool) : Action Unit := do
  let deadline ← Service.deadline policy.deadline
  Poll.waitUntil policy owner step check deadline policy.attempts

end Moorage
