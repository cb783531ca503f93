import Sidekick.Text.Blank
import Sidekick.Calculator.Token

/-!
# Reading the tokens of an expression

A text is first cut into the maximal runs of digits and points and the single characters between
them. A minus that stands directly before a run belongs to it, unless an operand or a closing
parenthesis came before.
-/

namespace Sidekick.Calculator
open Text

/-- The sign that a typographic sign stands for. -/
def plainSign (c : Char) : Char :=
  if c = '−' ∨ c = '–' ∨ c = '—' then '-'
  else if c = '×' then '*'
  else if c = '÷' then '/'
  else c

def isNumeric (c : Char) : Bool := c.isDigit || c == '.'

/-- A maximal run of numeric characters, or one other character. -/
inductive Piece where
  | run (text : List Char)
  | mark (c : Char)
  deriving DecidableEq

def Piece.text : Piece → List Char
  | .run text => text
  | .mark c => [c]

def pieces : List Char → List Piece
  | [] => []
  | c :: s =>
    if isNumeric c then
      match pieces s with
      | .run text :: rest => .run (c :: text) :: rest
      | rest => .run [c] :: rest
    else .mark c :: pieces s

theorem flatMap_text_pieces (s : List Char) : (pieces s).flatMap Piece.text = s := by
  fun_induction pieces s with
  | case1 => rfl
  | case2 c s h text rest hp ih =>
    simp only [hp, List.flatMap_cons, Piece.text] at ih ⊢
    simp [ih]
  | case3 c s h hp ih => simp [Piece.text, ih]
  | case4 c s h ih => simp [Piece.text, ih]

def operandMayFollow {α : Type} : Option (Token α) → Bool
  | none | some (.operator _) | some .opening => true
  | some (.operand _) | some .closing => false

def operand {α : Type} (read : List Char → Option α) (text : List Char) : Except Fault (Token α) :=
  match read text with
  | some x => .ok (.operand x)
  | none => .error (.badNumber text)

def markToken {α : Type} (c : Char) : Except Fault (Token α) :=
  match Operator.ofSign? c with
  | some o => .ok (.operator o)
  | none =>
    if c = '(' then .ok .opening
    else if c = ')' then .ok .closing
    else .error (.invalidCharacter c)

def tokensAfter {α : Type} (read : List Char → Option α) (last : Option (Token α)) :
    List Piece → Except Fault (List (Token α))
  | [] => .ok []
  | .run text :: rest => do
    let t ← operand read text
    return t :: (← tokensAfter read (some t) rest)
  | .mark '-' :: .run text :: rest => do
    if operandMayFollow last then
      let t ← operand read ('-' :: text)
      return t :: (← tokensAfter read (some t) rest)
    else
      let t ← operand read text
      return .operator .sub :: t :: (← tokensAfter read (some t) rest)
  | .mark c :: rest =>
    if isBlank c then tokensAfter read last rest
    else do
      let t ← markToken c
      return t :: (← tokensAfter read (some t) rest)

def tokens {α : Type} (read : List Char → Option α) (s : List Char) :
    Except Fault (List (Token α)) :=
  tokensAfter read none (pieces (s.map plainSign))

end Sidekick.Calculator
