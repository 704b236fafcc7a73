import PageScripts.Fault
import PageScripts.Number.Calendar
import PageScripts.Number.Shortest

/-!
# Sizes and times in tables

The size of a file is shown in bytes, or from 1024 bytes on in kilobytes with one decimal
place.  A point in time is shown to the minute.  What is no such figure is a dash.
-/

namespace PageScripts
namespace Figure

/-- What is shown where there is no figure. -/
def dash : String := "—"

/-- A size in bytes. -/
def size : Json → Except Fault String
  | .int n =>
      if n < 1024 then
        .ok (toString n ++ " B")
      else
        match (Binary64.ofRatio false n.toNat 1024).oneDecimal? with
        | some text => .ok (text ++ " KB")
        | none => .error .numberTooLarge
  | _ => .ok dash

/-- The largest number of seconds that a clock counts. -/
def clockLimit : Int := Int.pow 2 63

/-- The largest year that a clock tells. -/
def yearLimit : Int := 2147485547

/-- The smallest year that a clock tells. -/
def yearStart : Int := -2147481748

/-- A point in time, in seconds.  The years from 1 to 9999 have dates, but for the very first
day: the day before has to have a date as well. -/
def timeOfSeconds (seconds : Int) : Except Fault String :=
  if seconds < -clockLimit ∨ clockLimit ≤ seconds then
    .error (.date .range)
  else
    let day := seconds / 86400
    let year := (Number.dateOfDay day).year
    if year < yearStart ∨ yearLimit < year then
      .error (.date .system)
    else if (Number.dateOfDay (day - 1)).year < 1 ∨ 9999 < year then
      .error (.date (.year year))
    else
      .ok (Number.minuteText seconds)

/-- A point in time; zero is none. -/
def time (value : Json) : Except Fault String :=
  if value.truth then
    match value with
    | .int n => timeOfSeconds n
    | .float (.finite negative significand exponent) =>
        timeOfSeconds (Binary64.wholeSeconds negative significand exponent)
    | .float (.infinite _) => .error (.date .range)
    | .float .nan => .error (.date .notANumber)
    | _ => .ok dash
  else
    .ok dash

end Figure
end PageScripts
