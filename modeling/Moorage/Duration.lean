/-!
# `Moorage.Duration`: spans of time

A span is a count of nanoseconds. `Duration.text` writes it in the largest unit
of which it holds a whole one, with the fraction that is left.
-/

set_option autoImplicit false

namespace Moorage

/-- A span of time. -/
structure Duration where
  nanos : Nat
  deriving DecidableEq, Repr, Inhabited

namespace Duration

/-- One second in nanoseconds. -/
def nanosPerSec : Nat := 1000000000

/-- A span of whole seconds. -/
def ofSecs (secs : Nat) : Duration := ⟨secs * nanosPerSec⟩

/-- A span of whole milliseconds. -/
def ofMillis (millis : Nat) : Duration := ⟨millis * 1000000⟩

/-- The whole seconds of a span. -/
def secs (d : Duration) : Nat := d.nanos / nanosPerSec

/-- The nanoseconds beyond the whole seconds. -/
def subsecNanos (d : Duration) : Nat := d.nanos % nanosPerSec

/-- The whole milliseconds of a span. -/
def millis (d : Duration) : Nat := d.nanos / 1000000

/-- The digits of a fraction with `places` decimal places, without the zeros at
its end. -/
def fractionDigits (places fraction : Nat) : List Char :=
  let digits := (Nat.toDigits 10 fraction)
  let padded := List.replicate (places - digits.length) '0' ++ digits
  (padded.reverse.dropWhile (· = '0')).reverse

/-- A whole number and a fraction of `10 ^ places` parts as decimal text. -/
def decimal (whole places fraction : Nat) : String :=
  match fractionDigits places fraction with
  | [] => toString whole
  | digits => toString whole ++ "." ++ String.ofList digits

/-- The span in seconds, milliseconds, microseconds or nanoseconds: the largest
unit that fits at least once. -/
def text (d : Duration) : String :=
  if nanosPerSec ≤ d.nanos then decimal d.secs 9 d.subsecNanos ++ "s"
  else if 1000000 ≤ d.nanos then decimal (d.nanos / 1000000) 6 (d.nanos % 1000000) ++ "ms"
  else if 1000 ≤ d.nanos then decimal (d.nanos / 1000) 3 (d.nanos % 1000) ++ "µs"
  else toString d.nanos ++ "ns"

end Duration

end Moorage
