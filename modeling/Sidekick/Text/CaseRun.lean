/-!
# Runs of characters with a case

Many characters stand at one distance from their counterparts in another case, and side by side or
with the counterparts in between. A mapping of cases is given by such runs.
-/

namespace Sidekick.Text

/-- The characters `first`, `first + step`, …, `last`, whose counterparts lie `shift` further on. -/
structure CaseRun where
  first : Nat
  last : Nat
  step : Nat
  shift : Int

namespace CaseRun

def shifted? (run : CaseRun) (n : Nat) : Option Nat :=
  if run.first ≤ n ∧ n ≤ run.last ∧ (n - run.first) % run.step = 0 then
    some ((n : Int) + run.shift).toNat
  else none

/-- The counterpart of a character; a character of no run is its own. -/
def counterpart (runs : List CaseRun) (c : Char) : Char :=
  match runs.findSome? (·.shifted? c.toNat) with
  | some n => Char.ofNat n
  | none => c

end CaseRun

end Sidekick.Text
