import Sidekick.Number.Nearest

/-!
# Decimal values
-/

namespace Sidekick.Number

/-- The value `± digits · 10 ^ exponent`. -/
structure Decimal where
  negative : Bool
  digits : Nat
  exponent : Int
  deriving DecidableEq

/-- The binary64 number nearest to a decimal. Beyond `10 ^ 400` everything is infinite and below
`10 ^ -400` everything is zero, so no power is computed there. -/
def Decimal.toFloat (x : Decimal) : Float :=
  if x.digits = 0 then nearest x.negative 0 1
  else if 400 ≤ x.exponent then ofWord x.negative infinityWord
  else if x.exponent + Nat.log2 x.digits + 1 ≤ -400 then ofWord x.negative 0
  else
    let (n, d) := scaled 10 x.digits 1 x.exponent
    nearest x.negative n d

/-- The same value without zeros at the end of its digits; `fuel` bounds their number. -/
def Decimal.dropZeros (x : Decimal) : Nat → Decimal
  | 0 => x
  | fuel + 1 =>
    if x.digits ≠ 0 ∧ x.digits % 10 = 0 then
      dropZeros ⟨x.negative, x.digits / 10, x.exponent + 1⟩ fuel
    else x

end Sidekick.Number
