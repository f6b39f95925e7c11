/-!
# `Moorage.Text.Digits`: numbers written in decimal

Unsigned numbers are read from a non-empty run of ASCII digits, which one plus
sign may precede, and only up to a bound.
-/

set_option autoImplicit false

namespace Moorage.Text

/-- The value of an ASCII digit. -/
def digit? (c : Char) : Option Nat :=
  if '0' ≤ c ∧ c ≤ '9' then some (c.toNat - '0'.toNat) else none

/-- The value of a run of digits after the digits that make up `value`. -/
def digitsFrom (value : Nat) : List Char → Option Nat
  | [] => some value
  | c :: rest => do digitsFrom (10 * value + (← digit? c)) rest

/-- The value of a non-empty run of digits. -/
def digits? : List Char → Option Nat
  | [] => none
  | text => digitsFrom 0 text

/-- The number up to `bound` that a text writes, with at most one plus sign
in front. -/
def unsigned? (bound : Nat) (text : List Char) : Option Nat :=
  let run := match text with
    | '+' :: rest => rest
    | _ => text
  (digits? run).filter (· ≤ bound)

end Moorage.Text
