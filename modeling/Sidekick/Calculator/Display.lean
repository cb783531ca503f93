import Sidekick.Text.Quoted
import Sidekick.Number.Notation
import Sidekick.Number.Rounding
import Sidekick.Calculator.Evaluation

/-!
# The calculator's answers

Whole numbers are shown with all their digits, other numbers rounded to two places.
-/

namespace Sidekick.Calculator
open Number Text

def display (x : Float) : String :=
  match value x with
  | .nan => "NaN"
  | .infinite negative => signText negative ++ "Infinity"
  | .finite b =>
    if b.isWhole then toString (signed b.negative b.wholePart) else text (b.roundPlaces 2)

def Fault.message : Fault → String
  | .badNumber text => "Bad number: " ++ String.ofList (quoteChars text)
  | .invalidCharacter c => "Invalid character: " ++ String.ofList (quoteChars [c])
  | .mismatchedParentheses => "Mismatched parentheses"
  | .missingOperand => "Missing operand"
  | .invalidExpression => "Invalid expression"

def reply (args : String) : String :=
  match trim args.toList with
  | [] => "🧮 Usage: `@Appy calc 2+3*4`"
  | expression =>
    match evaluate expression with
    | .ok x => "🧮 Result: " ++ display x
    | .error _ => "⚠️ Error in expression — are you sure that’s math? 🤔"

end Sidekick.Calculator
