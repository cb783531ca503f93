import Sidekick.Text.Digit
import Sidekick.Number.Decimal

/-!
# Reading numerals

A numeral is a sign, digits with at most one point, and an exponent; `inf`, `infinity` and `nan` are
numerals too. The digits of every script are read, and one underscore may stand between two digits.
-/

namespace Sidekick.Number
open Text

/-- A numeral without its underscores, each of which must stand between two digits. -/
def ungroup (isDigit : Char → Bool) (previous : Char) : List Char → Option (List Char)
  | [] => if previous = '_' then none else some []
  | c :: s =>
    if c = '_' then if isDigit previous then ungroup isDigit c s else none
    else if previous = '_' ∧ !isDigit c then none
    else (ungroup isDigit c s).map (c :: ·)

def takeSign : List Char → Bool × List Char
  | '-' :: s => (true, s)
  | '+' :: s => (false, s)
  | s => (false, s)

def digits? (s : List Char) : Option Nat :=
  if s.isEmpty ∨ !s.all Char.isDigit then none else some (decimalValue s)

/-- The exponent of a numeral; a missing one is zero. -/
def exponent? : List Char → Option Int
  | [] => some 0
  | c :: s =>
    if c = 'e' ∨ c = 'E' then
      let (negative, s) := takeSign s
      (digits? s).map (signed negative)
    else none

def unsigned? (negative : Bool) (s : List Char) : Option Decimal :=
  let whole := s.takeWhile Char.isDigit
  let s := s.dropWhile Char.isDigit
  let (fraction, s) := match s with
    | '.' :: s => (s.takeWhile Char.isDigit, s.dropWhile Char.isDigit)
    | s => ([], s)
  if whole.isEmpty ∧ fraction.isEmpty then none
  else (exponent? s).map fun e => ⟨negative, decimalValue (whole ++ fraction), e - fraction.length⟩

def notANumber : Float := Float.ofBits 0x7FF8000000000000

def read? (s : List Char) : Option Float := do
  let (negative, s) := takeSign (← ungroup Char.isDigit ' ' (s.map plainDigit))
  let small := s.map Char.toLower
  if small = "inf".toList ∨ small = "infinity".toList then some (ofWord negative infinityWord)
  else if small = "nan".toList then some notANumber
  else (unsigned? negative s).map Decimal.toFloat

end Sidekick.Number
