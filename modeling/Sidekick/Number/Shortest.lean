import Sidekick.Number.Decimal

/-!
# The shortest decimal of a number

The shortest decimal of a binary64 number has the fewest digits that read back as the number, and of
those the digits nearest to it. It is found on grids of one digit, two digits and so on: a grid that
holds a decimal which reads back has one next to the value.
-/

namespace Sidekick.Number

/-- The number of decimal digits of `n`; zero has none. -/
def digitCount (n : Nat) : Nat := if n = 0 then 0 else digitCount (n / 10) + 1
termination_by n
decreasing_by omega

/-- The `k` with `10 ^ k ≤ n / d < 10 ^ (k + 1)`, for positive `n` and `d`. -/
def log10Quotient (n d : Nat) : Int :=
  if d ≤ n then (digitCount (n / d) : Int) - 1 else -(digitCount ((d - 1) / n) : Int)

/-- The neighbours of `± n / d` on the multiples of `10 ^ place`, the nearer one first. -/
def neighbours (negative : Bool) (n d : Nat) (place : Int) : List Decimal :=
  let (n, d) := scaled 10 n d (-place)
  let below : Decimal := ⟨negative, n / d, place⟩
  let above : Decimal := ⟨negative, n / d + 1, place⟩
  if divNearest n d = n / d then [below, above] else [above, below]

/-- The first decimal that reads back as `x`, on grids from `place` downward. -/
def firstReadingBack (x : Float) (negative : Bool) (n d : Nat) (place : Int) : Nat → Option Decimal
  | 0 => none
  | fuel + 1 =>
    match (neighbours negative n d place).find? (·.toFloat.toBits == x.toBits) with
    | some decimal => some decimal
    | none => firstReadingBack x negative n d (place - 1) fuel

/-- The digits after the first that write every finite number exactly. -/
def exactDigits : Nat := 1100

/-- The shortest decimal that reads back as the finite number `b`. -/
def shortest (x : Float) (b : Binary) : Decimal :=
  let (n, d) := b.fraction
  if n = 0 then ⟨b.negative, 0, 0⟩
  else
    match firstReadingBack x b.negative n d (log10Quotient n d) exactDigits with
    | some decimal => decimal.dropZeros exactDigits
    | none => ⟨b.negative, n, 0⟩

end Sidekick.Number
