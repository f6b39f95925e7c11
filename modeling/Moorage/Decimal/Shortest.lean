import Moorage.Decimal.Binary64

/-!
# `Moorage.Decimal.Shortest`: the fewest digits that read back

The decimal text of a double uses the fewest digits that only this double reads
back from, and of those the nearest to it.

* `Binary64.shortest`: those digits and the power of ten of the last one.
* `Binary64.pointText`: positional notation at every size, with a fraction.
* `Binary64.shortText`: positional notation for middle sizes, an exponent else.
-/

set_option autoImplicit false

namespace Moorage.Binary64

/-- The reals that round to a positive double, as twice scaled bounds over a
common denominator: lower bound, the number, upper bound, denominator. -/
structure Reach where
  low : Nat
  value : Nat
  high : Nat
  unit : Nat
  closed : Bool

/-- The reach of the double `mantissa * 2 ^ exponent`. Below a power of two the
next double is only half as far away. -/
def reach (mantissa : Nat) (exponent : Int) : Reach :=
  let narrow := mantissa = Nat.pow 2 52 ∧ exponent > minExponent
  let low := if narrow then 4 * mantissa - 1 else 4 * mantissa - 2
  let scale := exponent - 2
  let up := if 0 ≤ scale then Nat.pow 2 scale.toNat else 1
  let unit := if 0 ≤ scale then 1 else Nat.pow 2 (-scale).toNat
  { low := low * up, value := 4 * mantissa * up, high := (4 * mantissa + 2) * up,
    unit := unit, closed := mantissa % 2 = 0 }

/-- The number of decimal digits of a number. -/
def decimalLength (n : Nat) : Nat := (Nat.toDigits 10 n).length

/-- The power of ten of the first digit of the positive fraction `num / den`. -/
def leadingPower (num den : Nat) : Int :=
  if den ≤ num then (decimalLength (num / den) : Int) - 1
  else -(decimalLength ((den + num - 1) / num - 1) : Int)

/-- A fraction measured in steps of `10 ^ power`: the new numerator and
denominator. -/
def inSteps (num den : Nat) (power : Int) : Nat × Nat :=
  if 0 ≤ power then (num, den * Nat.pow 10 power.toNat) else (num * Nat.pow 10 (-power).toNat, den)

/-- Whether `steps * 10 ^ power` lies in the reach. -/
def Reach.holds (r : Reach) (steps : Nat) (power : Int) : Bool :=
  let low := inSteps r.low r.unit power
  let high := inSteps r.high r.unit power
  if r.closed then low.1 ≤ steps * low.2 && steps * high.2 ≤ high.1
  else low.1 < steps * low.2 && steps * high.2 < high.1

/-- The step of size `10 ^ power` in the reach that is nearest to the number. -/
def Reach.hit? (r : Reach) (power : Int) : Option Nat :=
  let (num, den) := inSteps r.value r.unit power
  let below := num / den
  let above := below + 1
  match r.holds below power, r.holds above power with
  | false, false => none
  | true, false => some below
  | false, true => some above
  | true, true =>
      if 2 * (num % den) < den then some below
      else if 2 * (num % den) > den then some above
      else some (if below % 2 = 0 then below else above)

/-- The first hit on the grids of `first`, `first - 1`, … as powers of ten, over
`count` grids. -/
def Reach.search (r : Reach) (first : Int) : (count : Nat) → Option (Nat × Int)
  | 0 => none
  | count + 1 =>
      match r.hit? first with
      | some steps => some (steps, first)
      | none => r.search (first - 1) count

/-- The digits of a positive double as one number without zeros at its end, and
the power of ten of the last digit. Seventeen digits always suffice. -/
def shortest (mantissa : Nat) (exponent : Int) : Nat × Int :=
  let r := reach mantissa exponent
  match r.search (leadingPower r.value r.unit) 18 with
  | none => (0, 0)
  | some (steps, power) =>
      let digits := Nat.toDigits 10 steps
      let zeros := (digits.reverse.takeWhile (· = '0')).length
      (steps / Nat.pow 10 zeros, power + zeros)

/-- Digits with the decimal point after `whole` of them, zeros filled in. -/
def positional (digits : List Char) (whole : Int) : List Char :=
  let count := digits.length
  if whole ≤ 0 then ['0', '.'] ++ List.replicate (-whole).toNat '0' ++ digits
  else if (count : Int) ≤ whole then
    digits ++ List.replicate (whole.toNat - count) '0' ++ ['.', '0']
  else digits.take whole.toNat ++ ['.'] ++ digits.drop whole.toNat

/-- The sign of a negative number. -/
def signText (negative : Bool) : String := if negative then "-" else ""

/-- Positional notation with at least one digit after the point, whatever the
size. -/
def pointText : Binary64 → String
  | .nan => "NaN"
  | .infinite negative => signText negative ++ "inf"
  | .finite negative 0 _ => signText negative ++ "0.0"
  | .finite negative mantissa exponent =>
      let (steps, power) := shortest mantissa exponent
      let digits := Nat.toDigits 10 steps
      signText negative ++ String.ofList (positional digits (digits.length + power))

/-- Positional notation for numbers from a hundred-thousandth up to sixteen
digits, an exponent for all others. -/
def shortText : Binary64 → String
  | .nan => ".nan"
  | .infinite negative => signText negative ++ ".inf"
  | .finite negative 0 _ => signText negative ++ "0.0"
  | .finite negative mantissa exponent =>
      let (steps, power) := shortest mantissa exponent
      let digits := Nat.toDigits 10 steps
      let whole : Int := digits.length + power
      signText negative ++
        if -5 < whole ∧ whole ≤ 16 then String.ofList (positional digits whole)
        else
          let tail := digits.drop 1
          String.ofList (digits.take 1 ++ (if tail.isEmpty then [] else '.' :: tail))
            ++ "e" ++ toString (whole - 1)

end Moorage.Binary64
