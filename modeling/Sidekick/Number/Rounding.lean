import Sidekick.Number.Nearest

/-!
# Rounding numbers

Numbers are rounded from their exact value, a half to the even neighbour. What is not finite has no
integer near it.
-/

namespace Sidekick.Number

inductive NotFinite where
  | nan
  | infinite
  deriving DecidableEq

def NotFinite.message : NotFinite → String
  | .nan => "cannot convert float NaN to integer"
  | .infinite => "cannot convert float infinity to integer"

def finite (x : Float) : Except NotFinite Binary :=
  match value x with
  | .nan => .error .nan
  | .infinite _ => .error .infinite
  | .finite b => .ok b

/-- The multiple of `10 ^ -places` nearest to the magnitude, as a count. -/
def Binary.countPlaces (b : Binary) (places : Nat) : Nat :=
  let (n, d) := b.fraction
  divNearest (n * tenPow places) d

/-- The number nearest to the value rounded to `places` decimal places; a zero keeps its sign. -/
def Binary.roundPlaces (b : Binary) (places : Nat) : Float :=
  nearest b.negative (b.countPlaces places) (tenPow places)

def round (x : Float) : Except NotFinite Int := do
  let b ← finite x
  return signed b.negative (b.countPlaces 0)

def truncate (x : Float) : Except NotFinite Int := do
  let b ← finite x
  return signed b.negative b.wholePart

def floor (x : Float) : Except NotFinite Int := do
  let b ← finite x
  return if b.negative && !b.isWhole then -(b.wholePart : Int) - 1
    else signed b.negative b.wholePart

end Sidekick.Number
