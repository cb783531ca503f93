import Sidekick.Calendar.Date
import Sidekick.Number.Rounding

/-!
# Time stamps

A stamp is the date and the time of day of an instant, without its fraction of a second.
-/

namespace Sidekick.Calendar
open Number

/-- The whole seconds of an instant; there are none in a year that dates are not written for. -/
def wholeSeconds (clock : Float) : Except Fault Int := do
  inCalendar (← wholeOrFault (floor clock))

/-- A time in seconds written `Y-MM-DD HH:MM:SS`, with the year as it is and all else in two
digits. -/
def stampText (seconds : Int) : String :=
  let date := dateOf seconds
  let time := (seconds % 86400).toNat
  toString date.year ++ "-" ++ padded 2 date.month ++ "-" ++ padded 2 date.day ++ " "
    ++ padded 2 (time / 3600) ++ ":" ++ padded 2 (time / 60 % 60) ++ ":" ++ padded 2 (time % 60)

/-- The stamp of an instant. A clock that looks back sees from the time of the day before whether a
local time comes twice, so that the first day of the calendar has no stamp. -/
def stamp (looksBack : Bool) (clock : Float) : Except Fault String := do
  let seconds ← wholeSeconds clock
  if looksBack then discard (inCalendar (seconds - 86400))
  return stampText seconds

end Sidekick.Calendar
