import Sidekick.Number.Quotient

/-!
# Binary64 numbers as exact values

A number is read as `± mantissa · 2 ^ exponent`, an infinity, or no number at all. All rounding and
printing starts from here.
-/

namespace Sidekick.Number

/-- The value `± mantissa · 2 ^ exponent`; a zero has a sign too. -/
structure Binary where
  negative : Bool
  mantissa : Nat
  exponent : Int
  deriving DecidableEq

inductive Value where
  | nan
  | infinite (negative : Bool)
  | finite (b : Binary)
  deriving DecidableEq

/-- The number of words of one sign that lie below infinity. -/
def infinityWord : Nat := 2047 * twoPow 52

/-- The value of a number: a field of `0` has no hidden bit, a field of `2047` is not finite. -/
def value (x : Float) : Value :=
  let bits := x.toBits.toNat
  let negative := decide (twoPow 63 ≤ bits)
  let field : Nat := bits / twoPow 52 % 2048
  let fraction := bits % twoPow 52
  if field = 2047 then
    if fraction = 0 then .infinite negative else .nan
  else if field = 0 then .finite ⟨negative, fraction, -1074⟩
  else .finite ⟨negative, fraction + twoPow 52, (field : Int) - 1075⟩

/-- The number of a sign and a word below the sign bit. Words of one sign ascend with their values. -/
def ofWord (negative : Bool) (word : Nat) : Float :=
  Float.ofBits (UInt64.ofNat (if negative then twoPow 63 + word else word))

def Binary.fraction (b : Binary) : Nat × Nat := scaled 2 b.mantissa 1 b.exponent

def Binary.isWhole (b : Binary) : Bool := b.fraction.1 % b.fraction.2 == 0

def Binary.wholePart (b : Binary) : Nat := b.fraction.1 / b.fraction.2

def signed (negative : Bool) (n : Nat) : Int := if negative then -(n : Int) else n

end Sidekick.Number
