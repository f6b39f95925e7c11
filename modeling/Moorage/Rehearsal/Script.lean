import Moorage.Duration
import Moorage.Error

/-!
# `Moorage.Rehearsal.Script`: what a rehearsal has in store

* `Script.next`: scripted answers, of which the last one repeats.
* `Rule.pick`: the rule that applies to a call, and the rules afterwards.
-/

set_option autoImplicit false

namespace Moorage.Rehearsal

/-- Answers to be given one after another. -/
abbrev Script (α : Type) := List α

/-- The next answer, and the script afterwards. The last answer stays; an empty
script has the given one. -/
def Script.next {α : Type} (fallback : α) : Script α → α × Script α
  | [] => (fallback, [])
  | [last] => (last, [last])
  | first :: rest => (first, rest)

/-- An event that happens to some calls. -/
structure Rule (α : Type) where
  call : String
  /-- What the call must be about; without it, anything. -/
  about : Option String := none
  /-- How many fitting calls it lets pass first. -/
  skip : Nat := 0
  /-- How many calls it applies to; without it, to all. -/
  times : Option Nat := none
  event : α
  deriving Repr

namespace Rule

variable {α : Type}

/-- Whether the rule is about a call with one of the given names as its key. -/
def fits (r : Rule α) (call : String) (keys : List String) : Bool :=
  r.call = call && r.about.all keys.contains

/-- The first rule that applies to a call. A fitting rule counts the calls that it
lets pass and those that it applies to. -/
def pick (call : String) (keys : List String) : List (Rule α) → Option α × List (Rule α)
  | [] => (none, [])
  | r :: rest =>
      let passOver (r : Rule α) : Option α × List (Rule α) :=
        let (event, rest) := pick call keys rest
        (event, r :: rest)
      if !r.fits call keys then passOver r
      else if 0 < r.skip then passOver { r with skip := r.skip - 1 }
      else
        match r.times with
        | none => (some r.event, r :: rest)
        | some 0 => passOver r
        | some (left + 1) => (some r.event, { r with times := some left } :: rest)

end Rule

/-- How a call fails. -/
inductive Mishap where
  | failure (error : Error)
  /-- The task that makes the call ends without a result. -/
  | crash
  deriving Repr

end Moorage.Rehearsal
