import Sidekick.Text.Blank
import Sidekick.Number.Numeral

/-!
# Hexadecimal numerals

A hexadecimal numeral may have blanks around it, a sign, the mark `0x` and single underscores
between its digits and after the mark. The information separators do not count as blanks here.
-/

namespace Sidekick.Number
open Text

def hexValue? (c : Char) : Option Nat :=
  if c.isDigit then some (c.toNat - '0'.toNat)
  else if 'a' ≤ c ∧ c ≤ 'f' then some (c.toNat - 'a'.toNat + 10)
  else if 'A' ≤ c ∧ c ≤ 'F' then some (c.toNat - 'A'.toNat + 10)
  else none

def isHexDigit (c : Char) : Bool := (hexValue? c).isSome

/-- A blank that may stand around a hexadecimal numeral. -/
def isNumeralBlank (c : Char) : Bool := isBlank c && !(0x1C ≤ c.toNat && c.toNat ≤ 0x1F)

/-- A text without the mark `0x` and an underscore behind it. -/
def dropMark : List Char → List Char
  | '0' :: 'x' :: s | '0' :: 'X' :: s =>
    match s with
    | '_' :: s => s
    | s => s
  | s => s

def readHex? (s : List Char) : Option Int := do
  let s := (s.dropWhile isNumeralBlank).reverse.dropWhile isNumeralBlank
  let (negative, s) := takeSign (s.reverse.map plainDigit)
  let digits ← ungroup isHexDigit ' ' (dropMark s)
  if digits.isEmpty then none
  else
    let n ← digits.foldlM (fun n c => (hexValue? c).map (16 * n + ·)) 0
    return signed negative n

end Sidekick.Number
