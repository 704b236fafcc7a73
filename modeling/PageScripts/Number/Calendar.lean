import PageScripts.Number.Binary64

/-!
# Points in time

A point in time is a number of seconds since the start of 1970 in universal time.  Its day has
a date in the Gregorian calendar, which is extended to all years.
-/

namespace PageScripts
namespace Number

/-- A date of the Gregorian calendar. -/
structure Date where
  year : Int
  month : Nat
  day : Nat
  deriving DecidableEq, Repr

/-- The date of a day, counted from the first of January 1970.  Years are taken to start in
March, so that the day that only some years have comes last. -/
def dateOfDay (day : Int) : Date :=
  let shifted := day + 719468
  let era := shifted / 146097
  let dayOfEra := (shifted % 146097).toNat
  let yearOfEra :=
    (dayOfEra - dayOfEra / 1460 + dayOfEra / 36524 - dayOfEra / 146096) / 365
  let dayOfYear := dayOfEra - (365 * yearOfEra + yearOfEra / 4 - yearOfEra / 100)
  let march := (5 * dayOfYear + 2) / 153
  let month := if march < 10 then march + 3 else march - 9
  { year := yearOfEra + era * 400 + (if month ≤ 2 then 1 else 0)
    month
    day := dayOfYear - (153 * march + 2) / 5 + 1 }

/-- A number below one hundred with two digits. -/
def twoDigits (n : Nat) : String :=
  if n < 10 then "0" ++ toString n else toString n

/-- The date and the time of day of a point in time, to the minute. -/
def minuteText (seconds : Int) : String :=
  let date := dateOfDay (seconds / 86400)
  let minute := (seconds % 86400 / 60).toNat
  toString date.year ++ "-" ++ twoDigits date.month ++ "-" ++ twoDigits date.day ++ " "
    ++ twoDigits (minute / 60) ++ ":" ++ twoDigits (minute % 60)

end Number

namespace Binary64

open Number

/-- The absolute value of a finite double times an integer, rounded to a double and then to
the nearest integer. -/
def scaledInteger
    (significand : Nat)
    (exponent : Int)
    (factor : Nat) :
    Nat :=
  let r := magnitude significand exponent
  match ofRatio false (r.num * factor) r.den with
  | finite _ significand exponent =>
      let product := magnitude significand exponent
      roundRatio product.num product.den
  | _ => 0

/-- The whole seconds of a point in time that is given as a double, to which it is rounded
down after it has been rounded to a microsecond. -/
def wholeSeconds
    (negative : Bool)
    (significand : Nat)
    (exponent : Int) :
    Int :=
  let r := magnitude significand exponent
  let whole := r.num / r.den
  let rest := ofRatio false (r.num % r.den) r.den
  let micros :=
    match rest with
    | finite _ significand exponent => scaledInteger significand exponent 1000000
    | _ => 0
  if negative then
    -(whole : Int) - (if micros = 0 then 0 else 1)
  else
    (whole : Int) + (if micros < 1000000 then 0 else 1)

end Binary64
end PageScripts
