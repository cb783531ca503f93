import Sidekick.Number.Shortest

/-!
# How a number is written

A number is written with the digits of its shortest decimal: with a point for moderate sizes, and
with an exponent for very small and very large ones.
-/

namespace Sidekick.Number

structure Layout where
  /-- The least power of ten of a first digit that is written with a point. -/
  leastPositional : Int
  /-- The least power of ten of a first digit that is written with an exponent again. -/
  leastLarge : Int
  exponentWidth : Nat
  wholeEnding : String

/-- The layout of all numbers the program writes: a point from `10 ^ -4` up to below `10 ^ 16`, a
signed exponent of two digits or more elsewhere, and `.0` after a whole number. -/
def layout : Layout := ⟨-4, 16, 2, ".0"⟩

def signText (negative : Bool) : String := if negative then "-" else ""

def padded (width n : Nat) : String :=
  let digits := Nat.toDigits 10 n
  String.ofList (List.replicate (width - digits.length) '0' ++ digits)

/-- A decimal point behind the first digit, if there are more. -/
def withPoint : List Char → String
  | [] => ""
  | [c] => String.ofList [c]
  | c :: rest => String.ofList (c :: '.' :: rest)

/-- Digits whose first one stands for `10 ^ power`. -/
def Layout.write (l : Layout) (digits : List Char) (power : Int) : String :=
  if l.leastPositional ≤ power ∧ power < l.leastLarge then
    if power < 0 then
      "0." ++ String.ofList (List.replicate (-power - 1).toNat '0' ++ digits)
    else
      let whole := digits.take (power.toNat + 1)
      let zeros := List.replicate (power.toNat + 1 - whole.length) '0'
      let fraction := digits.drop (power.toNat + 1)
      String.ofList (whole ++ zeros) ++
        if fraction.isEmpty then l.wholeEnding else "." ++ String.ofList fraction
  else
    let sign := if power < 0 then "-" else "+"
    withPoint digits ++ "e" ++ sign ++ padded l.exponentWidth power.natAbs

def Decimal.text (x : Decimal) : String :=
  let digits := Nat.toDigits 10 x.digits
  signText x.negative ++ layout.write digits (x.exponent + digits.length - 1)

def text (x : Float) : String :=
  match value x with
  | .nan => "nan"
  | .infinite negative => signText negative ++ "inf"
  | .finite b => (shortest x b).text

end Sidekick.Number
