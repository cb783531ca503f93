import Sidekick.Fault
import Sidekick.Text.Blank
import Sidekick.Text.Digit
import Sidekick.Text.LowerCase

/-!
# Durations

A duration is written as a number, a unit and perhaps a label: `30s`, `1 min tea break`. A unit has
several names, in any case. Some letters of other alphabets look like the letters of a name when the
case is ignored; a unit spelled with them is recognised and then refused.
-/

namespace Sidekick
open Text

inductive TimeUnit where
  | second
  | minute
  | hour
  | day
  | week
  | month
  deriving DecidableEq

namespace TimeUnit

def all : List TimeUnit := [second, minute, hour, day, week, month]

def word : TimeUnit → String
  | second => "second"
  | minute => "minute"
  | hour => "hour"
  | day => "day"
  | week => "week"
  | month => "month"

def names : TimeUnit → List String
  | second => ["s", "sec", "secs", "second", "seconds"]
  | minute => ["m", "min", "mins", "minute", "minutes"]
  | hour => ["h", "hr", "hrs", "hour", "hours"]
  | day => ["d", "day", "days"]
  | week => ["w", "wk", "wks", "week", "weeks"]
  | month => ["mo", "mon", "mons", "month", "months"]

/-- The milliseconds of a unit; a month has thirty days. -/
def millis : TimeUnit → Nat
  | second => 1000
  | minute => 60 * 1000
  | hour => 60 * 60 * 1000
  | day => 24 * 60 * 60 * 1000
  | week => 7 * 24 * 60 * 60 * 1000
  | month => 30 * 24 * 60 * 60 * 1000

def ofName? (name : List Char) : Option TimeUnit :=
  all.find? fun unit => unit.names.any (·.toList == name)

end TimeUnit

/-- What a timer is set to: the time, the same in words, and a label. -/
structure Countdown where
  millis : Int
  words : String
  label : String
  deriving DecidableEq

namespace Duration

def foldCase (c : Char) : Char :=
  if c = '\u017F' then 's'
  else if c = '\u0130' ∨ c = '\u0131' then 'i'
  else if c = '\u212A' then 'k'
  else c.toLower

def describe (n : Nat) (unit : TimeUnit) : String :=
  toString n ++ " " ++ unit.word ++ if n = 1 then "" else "s"

/-- The digits, the unit and what follows it, if the text is a duration with letters that only look
like those of a unit let through. -/
def split? (s : List Char) : Option (List Char × List Char × List Char) :=
  let s := trim s
  let digits := s.takeWhile isDecimalDigit
  let rest := trimStart (s.dropWhile isDecimalDigit)
  if digits.isEmpty ∨ (TimeUnit.ofName? ((word rest).map foldCase)).isNone then none
  else some (digits, word rest, afterWord rest)

/-- The countdown that a text asks for; `none` if the text is no duration. -/
def parse (s : List Char) : Except Fault (Option Countdown) :=
  match split? s with
  | none => .ok none
  | some (digits, name, label) =>
    if maxDigits < digits.length then .error (.tooManyDigits digits.length)
    else match TimeUnit.ofName? (lower name) with
      | none => .error (.unknownUnit (String.ofList (lower name)))
      | some unit =>
        let n := decimalValue digits
        .ok (some ⟨n * unit.millis, describe n unit, String.ofList (trim label)⟩)

end Duration

def Countdown.describe (c : Countdown) : String :=
  if c.label.isEmpty then c.words else c.words ++ " — " ++ c.label

end Sidekick
