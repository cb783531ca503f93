import Sidekick.Number.Numeral
import Sidekick.Calculator.Lexer
import Sidekick.Calculator.Postfix

/-!
# The value of an expression

Items in postfix order are evaluated on a stack of values. The four operations are a parameter; the
calculator takes those of binary64 arithmetic, where a division by zero has a value too.
-/

namespace Sidekick.Calculator

/-- The value of postfix items, on a stack of values whose head is the last one. -/
def evaluateOn {α : Type} (apply : Operator → α → α → α) :
    List α → List (Item α) → Except Fault α
  | [x], [] => .ok x
  | _, [] => .error .invalidExpression
  | stack, .operand x :: items => evaluateOn apply (x :: stack) items
  | b :: a :: stack, .operator o :: items => evaluateOn apply (apply o a b :: stack) items
  | _, .operator _ :: _ => .error .missingOperand

def evaluatePostfix {α : Type} (apply : Operator → α → α → α) (items : List (Item α)) :
    Except Fault α :=
  evaluateOn apply [] items

def evaluateWith {α : Type} (read : List Char → Option α) (apply : Operator → α → α → α)
    (s : List Char) : Except Fault α := do
  evaluatePostfix apply (← toPostfix (← tokens read s))

def arithmetic : Operator → Float → Float → Float
  | .add, a, b => a + b
  | .sub, a, b => a - b
  | .mul, a, b => a * b
  | .div, a, b => a / b

def evaluate (s : List Char) : Except Fault Float := evaluateWith Number.read? arithmetic s

end Sidekick.Calculator
