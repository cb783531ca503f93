import Sidekick.Fault
import Sidekick.Number.Notation

/-!
# Dates

Dates of the Gregorian calendar, counted in days from the first of January 1970. A calendar date or
a week date is read in the basic and in the extended form.
-/

namespace Sidekick.Calendar
open Number

structure Date where
  year : Int
  month : Nat
  day : Nat
  deriving DecidableEq

/-- The days before the first of March of a year that begins in March, counted from the year 0. -/
def daysBeforeMarch (year : Int) : Int := 365 * year + year / 4 - year / 100 + year / 400

/-- The days of a year that begins in March before its `month`-th month, counted from zero. -/
def daysBeforeMonth (month : Nat) : Nat := (153 * month + 2) / 5

/-- The days from the first of March of the year 0 to the first of January 1970. -/
def epoch : Int := 719468

/-- The number of a date; `1970-01-01` is day 0. -/
def Date.toDays (d : Date) : Int :=
  let year := if d.month ≤ 2 then d.year - 1 else d.year
  daysBeforeMarch year + daysBeforeMonth ((d.month + 9) % 12) + (d.day - 1 : Int) - epoch

def Date.ofDays (days : Int) : Date :=
  let n := days + epoch
  let era := n / 146097
  let dayOfEra := (n % 146097).toNat
  let yearOfEra := (dayOfEra - dayOfEra / 1460 + dayOfEra / 36524 - dayOfEra / 146096) / 365
  let dayOfYear := dayOfEra - (365 * yearOfEra + yearOfEra / 4 - yearOfEra / 100)
  let month := (5 * dayOfYear + 2) / 153
  let year := 400 * era + yearOfEra
  { year := if month < 10 then year else year + 1
    month := if month < 10 then month + 3 else month - 9
    day := dayOfYear - daysBeforeMonth month + 1 }

/-- The weekday of a day's number, from Monday, 0, to Sunday, 6. -/
def weekday (days : Int) : Nat := ((days + 3) % 7).toNat

def weekdayName : Nat → String
  | 0 => "Mon"
  | 1 => "Tue"
  | 2 => "Wed"
  | 3 => "Thu"
  | 4 => "Fri"
  | 5 => "Sat"
  | _ => "Sun"

def isWritableYear (year : Int) : Bool := 1 ≤ year && year ≤ 9999

def Date.text (d : Date) : String :=
  padded 4 d.year.toNat ++ "-" ++ padded 2 d.month ++ "-" ++ padded 2 d.day

/-! ## Times in seconds -/

/-- The date of a time, counted in seconds from the first of January 1970. -/
def dateOf (seconds : Int) : Date := Date.ofDays (seconds / 86400)

def hourOf (seconds : Int) : Nat := (seconds % 86400).toNat / 3600

def inCalendar (seconds : Int) : Except Fault Int :=
  let year := (dateOf seconds).year
  if isWritableYear year then .ok seconds else .error (.yearOutOfRange year)

/-! ## Reading dates -/

def ofYearMonthDay? (year month day : Nat) : Option Int :=
  let days := Date.toDays ⟨year, month, day⟩
  if isWritableYear year ∧ Date.ofDays days = ⟨year, month, day⟩ then some days else none

/-- The Monday of the first week of a year, the one with its fourth of January. -/
def firstMonday (year : Nat) : Int :=
  let fourth := Date.toDays ⟨year, 1, 4⟩
  fourth - weekday fourth

/-- The number of the day that a year, a week and a weekday from 1 to 7 name, if there is one. -/
def ofYearWeekDay? (year week day : Nat) : Option Int :=
  let monday := firstMonday year + 7 * ((week : Int) - 1)
  let days := monday + ((day : Int) - 1)
  if 1 ≤ year ∧ 1 ≤ week ∧ monday < firstMonday (year + 1) ∧ 1 ≤ day ∧ day ≤ 7
      ∧ isWritableYear (Date.ofDays days).year then some days
  else none

def fixedDigits? (width : Nat) (s : List Char) : Option (Nat × List Char) :=
  let digits := s.take width
  if digits.length = width ∧ digits.all Char.isDigit then
    some (Nat.ofDigitChars 10 digits 0, s.drop width)
  else none

/-- A hyphen of the extended form; the basic form has none. -/
def hyphen? (extended : Bool) (s : List Char) : Option (List Char) :=
  match extended, s with
  | false, s => some s
  | true, '-' :: s => some s
  | true, _ => none

/-- The number of the day that a text of 7, 8 or 10 bytes names. A week date without a weekday is
its Monday. Whatever follows a complete date is passed over. -/
def parseDay? (s : List Char) : Option Int := do
  let size := (String.ofList s).utf8ByteSize
  if size ≠ 7 ∧ size ≠ 8 ∧ size ≠ 10 then none
  else
    let (year, s) ← fixedDigits? 4 s
    let (extended, s) := match s with
      | '-' :: s => (true, s)
      | s => (false, s)
    match s with
    | 'W' :: s =>
      let (week, s) ← fixedDigits? 2 s
      if s.isEmpty then ofYearWeekDay? year week 1
      else
        let (day, _) ← fixedDigits? 1 (← hyphen? extended s)
        ofYearWeekDay? year week day
    | s =>
      let (month, s) ← fixedDigits? 2 s
      let (day, _) ← fixedDigits? 2 (← hyphen? extended s)
      ofYearMonthDay? year month day

end Sidekick.Calendar
