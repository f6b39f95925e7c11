/-!
# `Moorage.Decimal.Binary64`: double precision numbers

A finite double is a mantissa below `2 ^ 53` times a power of two, kept in the
one form in which the mantissa is as large as the exponent range allows.
`Binary64.ofDecimal` rounds a decimal number to the nearest double, a tie to the
even mantissa.
-/

set_option autoImplicit false

namespace Moorage

/-- A double precision number. The finite one stands for
`mantissa * 2 ^ exponent`, with a sign that zero has as well. -/
inductive Binary64 where
  | nan
  | infinite (negative : Bool)
  | finite (negative : Bool) (mantissa : Nat) (exponent : Int)
  deriving DecidableEq, Repr, Inhabited

namespace Binary64

/-- The least exponent of a double. -/
def minExponent : Int := -1074

/-- The largest exponent of a double. -/
def maxExponent : Int := 971

/-- The quotient of `num` by `den`, rounded to the nearest whole number, a tie to
the even one. -/
def roundDiv (num den : Nat) : Nat :=
  let whole := num / den
  let rest := 2 * (num % den)
  if rest > den ∨ (rest = den ∧ whole % 2 = 1) then whole + 1 else whole

/-- A fraction divided by a power of two. -/
def scaled (num den : Nat) (exponent : Int) : Nat × Nat :=
  if 0 ≤ exponent then (num, den * Nat.pow 2 exponent.toNat)
  else (num * Nat.pow 2 (-exponent).toNat, den)

/-- The exponent at which the fraction has a mantissa of 53 bits, or the least
exponent when it has none. -/
def exponentFor (num den : Nat) : Int :=
  let guess : Int := (Nat.log2 num : Int) - (Nat.log2 den : Int) - 52
  let guess := if (scaled num den guess).1 / (scaled num den guess).2 < Nat.pow 2 52
    then guess - 1 else guess
  max guess minExponent

/-- The double nearest to the positive fraction `num / den`. -/
def ofFraction (negative : Bool) (num den : Nat) : Binary64 :=
  let exponent := exponentFor num den
  let mantissa := roundDiv (scaled num den exponent).1 (scaled num den exponent).2
  let (mantissa, exponent) :=
    if mantissa = Nat.pow 2 53 then (Nat.pow 2 52, exponent + 1) else (mantissa, exponent)
  if exponent > maxExponent then .infinite negative else .finite negative mantissa exponent

/-- The double nearest to `digits * 10 ^ power`. Numbers outside of every double's
reach are settled by their size alone. -/
def ofDecimal (negative : Bool) (digits : Nat) (power : Int) : Binary64 :=
  let size : Int := (Nat.toDigits 10 digits).length + power
  if digits = 0 ∨ size < -330 then .finite negative 0 minExponent
  else if size > 320 then .infinite negative
  else if 0 ≤ power then ofFraction negative (digits * Nat.pow 10 power.toNat) 1
  else ofFraction negative digits (Nat.pow 10 (-power).toNat)

/-- Whether the number is neither infinite nor undefined. -/
def isFinite : Binary64 → Bool
  | .finite .. => true
  | _ => false

/-- Whether the number is zero, of either sign. -/
def isZero : Binary64 → Bool
  | .finite _ mantissa _ => mantissa = 0
  | _ => false

/-- Whether two doubles mean the same number: the zeros are one. -/
def sameNumber (x y : Binary64) : Bool := x = y || (x.isZero && y.isZero)

end Binary64

end Moorage
