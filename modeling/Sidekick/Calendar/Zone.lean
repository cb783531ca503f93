import Sidekick.Calendar.Date
import Sidekick.Calendar.Past

/-!
# Time zones

A zone has an offset from universal time, one hour more in summer. Summer time follows one of three
rules: the European one, which changes everywhere at one instant, the American one and the one of
the south-east of Australia, which change by local time. Until its present rules, the offsets of a
zone are those of its past.
-/

namespace Sidekick.Calendar

inductive Season where
  | none
  | european
  | american
  | australian
  deriving DecidableEq

/-- A time zone: its past, and by its present rules its standard offset in minutes and its summer
time. -/
structure Zone where
  past : List Span
  minutes : Int
  season : Season
  deriving DecidableEq

def Zone.universal : Zone := ⟨[], 0, .none⟩

/-- The zone of a name; universal time for names that are not known. -/
def Zone.ofName (name : String) : Zone :=
  match name with
  | "Europe/Berlin" => ⟨berlinPast, 60, .european⟩
  | "America/New_York" => ⟨newYorkPast, -300, .american⟩
  | "America/Los_Angeles" => ⟨losAngelesPast, -480, .american⟩
  | "America/St_Johns" => ⟨stJohnsPast, -210, .american⟩
  | "Australia/Sydney" => ⟨sydneyPast, 600, .australian⟩
  | "Asia/Kolkata" => ⟨kolkataPast, 330, .none⟩
  | "Asia/Kathmandu" => ⟨kathmanduPast, 345, .none⟩
  | "Asia/Tokyo" => ⟨tokyoPast, 540, .none⟩
  | "Pacific/Kiritimati" => ⟨kiritimatiPast, 840, .none⟩
  | _ => .universal

/-- The first Sunday on or after a day. -/
def sundayFrom (days : Int) : Int := days + (6 - weekday days : Int)

/-- The last Sunday on or before a day. -/
def sundayUpTo (days : Int) : Int := days - ((weekday days + 1) % 7 : Nat)

def secondsAt (days : Int) (hour : Int) : Int := (24 * days + hour) * 3600

def isSummer (zone : Zone) (seconds : Int) : Bool :=
  let year := (dateOf seconds).year
  let standard := seconds + 60 * zone.minutes
  match zone.season with
  | .none => false
  | .european =>
    let first := secondsAt (sundayUpTo (Date.toDays ⟨year, 3, 31⟩)) 1
    let last := secondsAt (sundayUpTo (Date.toDays ⟨year, 10, 31⟩)) 1
    first ≤ seconds && seconds < last
  | .american =>
    let first := secondsAt (sundayFrom (Date.toDays ⟨year, 3, 8⟩)) 2
    let last := secondsAt (sundayFrom (Date.toDays ⟨year, 11, 1⟩)) 1
    first ≤ standard && standard < last
  | .australian =>
    let last := secondsAt (sundayFrom (Date.toDays ⟨year, 4, 1⟩)) 2
    let first := secondsAt (sundayFrom (Date.toDays ⟨year, 10, 1⟩)) 2
    standard < last || first ≤ standard

/-- How far the clocks of a zone are ahead of universal time at an instant, in seconds. -/
def Zone.offset (zone : Zone) (seconds : Int) : Int :=
  match offset? zone.past seconds with
  | some offset => offset
  | none => 60 * zone.minutes + if isSummer zone seconds then 3600 else 0

/-- The local time of an instant of universal time, in seconds. Both are in years that dates are
written for. -/
def Zone.localSeconds (zone : Zone) (seconds : Int) : Except Fault Int := do
  let localTime := (← inCalendar seconds) + zone.offset seconds
  if isWritableYear (dateOf localTime).year then return localTime else throw .localTimeOutOfRange

end Sidekick.Calendar
