import Sidekick.Number.Binary

/-!
# Rounding to the nearest

Quotients are rounded to the nearest binary64 number, a tie to the one with an even mantissa. Every
conversion of the library rounds once, from the exact value.
-/

namespace Sidekick.Number

/-- The `e` with `2 ^ e ≤ n / d < 2 ^ (e + 1)`, for positive `n` and `d`. -/
def log2Quotient (n d : Nat) : Int :=
  let e : Int := (Nat.log2 n : Int) - Nat.log2 d
  let (n, d) := scaled 2 n d (-e)
  if d ≤ n then e else e - 1

/-- The exponent of the last binary place that a binary64 number of the size of `n / d` keeps. -/
def lastPlace (n d : Nat) : Int := max (-1074) (log2Quotient n d - 52)

/-- The multiple of `2 ^ place` nearest to `n / d`, as a count. -/
def countNearest (n d : Nat) (place : Int) : Nat :=
  let (n, d) := scaled 2 n d (-place)
  divNearest n d

/-- The binary64 number nearest to `± n / d`. A count of `2 ^ 53` carries into the exponent, and
what lies beyond the largest finite word is infinite. -/
def nearest (negative : Bool) (n d : Nat) : Float :=
  if n = 0 then ofWord negative 0
  else
    let place := lastPlace n d
    let word := (place + 1074).toNat * twoPow 52 + countNearest n d place
    ofWord negative (min word infinityWord)

def nearestQuotient (n : Int) (d : Nat) : Float := nearest (decide (n < 0)) n.natAbs d

end Sidekick.Number
