import Moorage.Text.Blank
import Moorage.Text.Digits

/-!
# `Moorage.Instant`: points in time

An instant counts the nanoseconds since the year 1970 began on the zero meridian.
A text writes one as a date, a time of day and the distance from that meridian, for
instance `2031-05-04T03:02:01.5+01:00`.

* `Instant.ofDate`: the instant at which a date begins.
* `Instant.read?`: the instant that a text writes.
-/

set_option autoImplicit false

namespace Moorage

/-- A point in time: the nanoseconds since 1970. -/
structure Instant where
  nanos : Int
  deriving DecidableEq, Repr, Inhabited

namespace Instant

/-- The instant some whole seconds later. -/
def afterSecs (t : Instant) (secs : Int) : Instant := ⟨t.nanos + secs * 1000000000⟩

/-- Whether a year has a 29th of February. -/
def isLeapYear (year : Int) : Bool :=
  year % 4 = 0 && (year % 100 ≠ 0 || year % 400 = 0)

/-- The number of days of a month. -/
def monthLength (year : Int) (month : Nat) : Nat :=
  if month = 2 then if isLeapYear year then 29 else 28
  else if [4, 6, 9, 11].contains month then 30
  else 31

/-- The days from the beginning of the year 1 to that of a year. -/
def daysBeforeYear (year : Int) : Int :=
  let past := year - 1
  365 * past + past / 4 - past / 100 + past / 400

/-- The days of a year before a month. -/
def daysBeforeMonth (year : Int) (month : Nat) : Nat :=
  (List.range (month - 1)).foldl (fun days m => days + monthLength year (m + 1)) 0

/-- The instant at which a date begins on the zero meridian, if there is such a
date. -/
def ofDate (year : Int) (month day : Nat) : Option Instant :=
  if month < 1 ∨ 12 < month ∨ day < 1 ∨ monthLength year month < day then none
  else
    let days := daysBeforeYear year - daysBeforeYear 1970 + daysBeforeMonth year month + (day - 1)
    some (afterSecs ⟨0⟩ (86400 * days))

/-- The largest distance of a year from the year 0. -/
def maxYear : Nat := 262142

/-- Reads from the beginning of a text. -/
abbrev Reader := StateT (List Char) Option

namespace Reader

/-- Passes over blanks. -/
def skipBlanks : Reader Unit := modify fun text => text.dropWhile Text.isBlank

/-- Takes the digits in front, at most `width` of them. -/
def takeDigits (width : Nat) : Reader (List Char) := do
  let text ← get
  let digits := (text.take width).takeWhile Char.isDigit
  set (text.drop digits.length)
  return digits

/-- A number of at most `width` digits, with blanks in front of it. -/
def number (width : Nat) : Reader Nat := do
  skipBlanks
  Text.digits? (← takeDigits width)

/-- A number of two digits. -/
def pair : Reader Nat := do
  let digits ← takeDigits 2
  if digits.length = 2 then Text.digits? digits else failure

/-- Passes over a mark, with blanks in front of it. -/
def mark (c : Char) : Reader Unit := do
  skipBlanks
  match ← get with
  | first :: rest => if first = c then set rest else failure
  | [] => failure

/-- A year: up to four digits, or any number of them behind a sign. -/
def year : Reader Int := do
  skipBlanks
  let text ← get
  let signed (rest : List Char) : Reader Nat := do
    set rest
    Text.digits? (← takeDigits rest.length)
  match text with
  | '-' :: rest => return -(← signed rest)
  | '+' :: rest => return ← signed rest
  | _ => return ← number 4

/-- The nanoseconds of a fraction, if there is one. Digits behind the ninth say
nothing. -/
def fraction : Reader Nat := do
  match ← get with
  | '.' :: rest =>
      let digits := (rest.takeWhile Char.isDigit)
      set (rest.drop digits.length)
      let kept := digits.take 9
      return (← Text.digits? kept) * Nat.pow 10 (9 - kept.length)
  | _ => return 0

/-- The seconds of a distance: hours and minutes. -/
def distance : Reader Int := do
  let hours ← pair
  modify fun text => text.dropWhile fun c => c = ':' || Text.isBlank c
  let minutes ← pair
  if hours < 24 ∧ minutes < 60 then return ((60 * hours + minutes) * 60 : Nat) else failure

/-- The seconds by which the clocks of a meridian are ahead. -/
def meridian : Reader Int := do
  skipBlanks
  let text ← get
  if (text.take 3).map Char.toUpper = "UTC".toList then
    set (text.drop 3)
    return 0
  match text with
  | 'Z' :: rest | 'z' :: rest => set rest; return 0
  | '+' :: rest => set rest; distance
  | '-' :: rest | '−' :: rest => set rest; return -(← distance)
  | _ => failure

/-- The instant at which a day begins on the zero meridian. -/
def date : Reader Instant := do
  let y ← year
  mark '-'
  let month ← number 2
  mark '-'
  let day ← number 2
  if y.natAbs ≤ maxYear then ofDate y month day else failure

/-- The nanoseconds since a day began. A leap second is the last one of its
minute and a second long. -/
def timeOfDay : Reader Nat := do
  let hour ← number 2
  mark ':'
  let minute ← number 2
  mark ':'
  let second ← number 2
  let nanos ← fraction
  if hour < 24 ∧ minute < 60 ∧ second ≤ 60 then
    return ((60 * hour + minute) * 60 + second) * 1000000000 + nanos
  else failure

/-- An instant: a date, one letter T or blank, a time and a meridian. -/
def instant : Reader Instant := do
  let day ← date
  match ← get with
  | 'T' :: rest | 't' :: rest | ' ' :: rest => set rest
  | _ => failure
  let nanos ← timeOfDay
  let ahead ← meridian
  skipBlanks
  if (← get).isEmpty then return (⟨day.nanos + nanos⟩ : Instant).afterSecs (-ahead) else failure

end Reader

/-- The instant that a text writes. -/
def read? (text : String) : Option Instant := (Reader.instant.run text.toList).map (·.1)

end Instant

end Moorage
