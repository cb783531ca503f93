/-!
# Tokens of an arithmetic expression

An expression is written with operands and operators, its items, and with parentheses. Operands are
of any type, so that everything said of expressions holds whatever they stand for.
-/

namespace Sidekick.Calculator

inductive Operator where
  | add
  | sub
  | mul
  | div
  deriving DecidableEq

def Operator.sign : Operator → Char
  | .add => '+'
  | .sub => '-'
  | .mul => '*'
  | .div => '/'

def Operator.ofSign? : Char → Option Operator
  | '+' => some .add
  | '-' => some .sub
  | '*' => some .mul
  | '/' => some .div
  | _ => none

def Operator.precedence : Operator → Nat
  | .add | .sub => 1
  | .mul | .div => 2

inductive Item (α : Type) where
  | operand (value : α)
  | operator (o : Operator)
  deriving DecidableEq

inductive Token (α : Type) where
  | item (i : Item α)
  | opening
  | closing
  deriving DecidableEq

@[match_pattern] abbrev Token.operand {α : Type} (value : α) : Token α := .item (.operand value)

@[match_pattern] abbrev Token.operator {α : Type} (o : Operator) : Token α := .item (.operator o)

inductive Fault where
  | badNumber (text : List Char)
  | invalidCharacter (c : Char)
  | mismatchedParentheses
  | missingOperand
  | invalidExpression
  deriving DecidableEq

end Sidekick.Calculator
