import Sidekick.Calculator.Token

/-!
# Postfix order

The items of an expression are put into postfix order with a stack of the operators and opening
parentheses that still wait. An operator releases those that wait on top of the stack and bind as
tightly as it does, so that operators of one strength group to the left.
-/

namespace Sidekick.Calculator

inductive Waiting where
  | operator (o : Operator)
  | opening
  deriving DecidableEq

/-- The operators on top of the stack that bind at least as tightly as `strength`, and the rest. -/
def release (strength : Nat) : List Waiting → List Operator × List Waiting
  | .operator o :: stack =>
    if strength ≤ o.precedence then
      let (released, stack) := release strength stack
      (o :: released, stack)
    else ([], .operator o :: stack)
  | stack => ([], stack)

/-- The operators above the last opening parenthesis, and the stack below it. -/
def closeGroup? : List Waiting → Option (List Operator × List Waiting)
  | [] => none
  | .opening :: stack => some ([], stack)
  | .operator o :: stack => (closeGroup? stack).map fun (released, stack) => (o :: released, stack)

/-- All operators of a stack without parentheses. -/
def unwind? : List Waiting → Option (List Operator)
  | [] => some []
  | .opening :: _ => none
  | .operator o :: stack => (unwind? stack).map (o :: ·)

/-- The items of the tokens, and then of the stack, in postfix order. -/
def postfixAfter {α : Type} (stack : List Waiting) :
    List (Token α) → Except Fault (List (Item α))
  | [] =>
    match unwind? stack with
    | some released => .ok (released.map .operator)
    | none => .error .mismatchedParentheses
  | .operand x :: tokens => do
    return .operand x :: (← postfixAfter stack tokens)
  | .operator o :: tokens => do
    let (released, stack) := release o.precedence stack
    return released.map .operator ++ (← postfixAfter (.operator o :: stack) tokens)
  | .opening :: tokens => postfixAfter (.opening :: stack) tokens
  | .closing :: tokens =>
    match closeGroup? stack with
    | some (released, stack) => do
      return released.map .operator ++ (← postfixAfter stack tokens)
    | none => .error .mismatchedParentheses

def toPostfix {α : Type} (tokens : List (Token α)) : Except Fault (List (Item α)) :=
  postfixAfter [] tokens

end Sidekick.Calculator
