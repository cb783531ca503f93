import Sidekick.Address
import Sidekick.Number.Rounding
import Sidekick.Text.Quoted
import Sidekick.Text.Utf8

/-!
# What can go wrong

Every fault is a cause, with one wording.
-/

namespace Sidekick

inductive Trouble where
  | refused
  | timedOut
  | broken
  deriving DecidableEq

inductive Fault where
  /-- A character escape with a negative number. -/
  | negativeCharacter
  | tooManyDigits (count : Nat)
  | notFinite (reason : Number.NotFinite)
  /-- A unit of time that is spelled like a known one but is none. -/
  | unknownUnit (unit : String)
  | delayTooLong
  | yearOutOfRange (year : Int)
  /-- A local time outside the calendar, at an instant inside. -/
  | localTimeOutOfRange
  | sendingUnsupported
  | notSent (conversation : Address)
  | notOpened (reason : String)
  | service (trouble : Trouble) (text : String)
  | network (text : String)
  | malformed (bytes : Text.Utf8.Malformed)
  deriving DecidableEq

/-- The most digits of an integer that is read. -/
def maxDigits : Nat := 4300

def Fault.message : Fault → String
  | negativeCharacter => "chr() arg not in range(0x110000)"
  | tooManyDigits count =>
    "Exceeds the limit (" ++ toString maxDigits ++ " digits) for integer string conversion: value has "
      ++ toString count ++ " digits; use sys.set_int_max_str_digits() to increase the limit"
  | notFinite reason => reason.message
  | unknownUnit unit => Text.quote unit
  | delayTooLong => "integer division result too large for a float"
  | yearOutOfRange year => "year " ++ toString year ++ " is out of range"
  | localTimeOutOfRange => "date value out of range"
  | sendingUnsupported => ""
  | notSent conversation => "send to " ++ conversation.text ++ " failed"
  | notOpened reason => reason
  | service _ text => text
  | network text => text
  | malformed bytes => bytes.message

def wholeOrFault {α : Type} : Except Number.NotFinite α → Except Fault α :=
  Except.mapError .notFinite

end Sidekick
