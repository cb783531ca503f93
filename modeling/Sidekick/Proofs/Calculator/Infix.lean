import Sidekick.Proofs.Calculator.Tree

namespace Sidekick.Calculator

inductive Phrase where
  | sum
  | product
  | factor
  deriving DecidableEq

def Phrase.tighter : Phrase → Phrase
  | sum => product
  | product | factor => factor

def Phrase.strength : Phrase → Nat
  | sum => 1
  | product => 2
  | factor => 3

/-- The kind of phrase that an operator stands in: its left operand is of the same kind, and its
right operand is tighter. -/
def Operator.phrase : Operator → Phrase
  | add | sub => .sum
  | mul | div => .product

theorem Operator.strength_phrase (o : Operator) : o.phrase.strength = o.precedence := by
  cases o <;> rfl

theorem Operator.strength_tighter_phrase (o : Operator) :
    o.phrase.tighter.strength = o.precedence + 1 := by
  cases o <;> rfl

theorem Phrase.strength_le_tighter (p : Phrase) : p.strength ≤ p.tighter.strength := by
  cases p <;> decide

inductive Infix {α : Type} : Phrase → List (Token α) → Tree α → Prop
  | operand (x : α) : Infix .factor [.operand x] (.leaf x)
  | group {ts : List (Token α)} {t : Tree α} :
      Infix .sum ts t → Infix .factor (.opening :: (ts ++ [.closing])) t
  | tighter {p : Phrase} {ts : List (Token α)} {t : Tree α} : Infix p.tighter ts t → Infix p ts t
  | apply {o : Operator} {ts us : List (Token α)} {a b : Tree α} :
      Infix o.phrase ts a → Infix o.phrase.tighter us b →
      Infix o.phrase (ts ++ .operator o :: us) (.node o a b)

def Held (strength : Nat) (stack : List Waiting) : Prop := release strength stack = ([], stack)

theorem held_of_le {m n : Nat} (le : m ≤ n) {stack : List Waiting} (held : Held m stack) :
    Held n stack := by
  cases stack with
  | nil => rfl
  | cons w stack =>
      cases w with
      | opening => rfl
      | operator o =>
          have loose : ¬ m ≤ o.precedence := by
            intro tight
            simp [Held, release, tight] at held
          have looser : ¬ n ≤ o.precedence := by omega
          simp [Held, release, looser]

theorem held_opening (n : Nat) (stack : List Waiting) : Held n (.opening :: stack) := rfl

theorem held_operator {n : Nat} {o : Operator} (loose : o.precedence < n) (stack : List Waiting) :
    Held n (.operator o :: stack) := by
  simp [Held, release, Nat.not_le.mpr loose]

theorem release_append {n : Nat} {pending : List Operator} {stack : List Waiting}
    (tight : ∀ o ∈ pending, n ≤ o.precedence) (held : Held n stack) :
    release n (pending.map .operator ++ stack) = (pending, stack) := by
  induction pending with
  | nil => exact held
  | cons o pending ih =>
      have rest := ih fun o h => tight o (List.mem_cons_of_mem _ h)
      simp [release, tight o List.mem_cons_self, rest]

theorem closeGroup?_append (pending : List Operator) (stack : List Waiting) :
    closeGroup? (pending.map .operator ++ .opening :: stack) = some (pending, stack) := by
  induction pending with
  | nil => rfl
  | cons o pending ih => simp [closeGroup?, ih]

theorem unwind?_map (pending : List Operator) :
    unwind? (pending.map .operator) = some pending := by
  induction pending with
  | nil => rfl
  | cons o pending ih => simp [unwind?, ih]

variable {α : Type}

/-- Reading `ts` on top of `stack` puts out `out` and leaves `pending` waiting. -/
def Reads (stack : List Waiting) (ts : List (Token α)) (out : List (Item α))
    (pending : List Operator) : Prop :=
  ∀ rest, postfixAfter stack (ts ++ rest) =
    (out ++ ·) <$> postfixAfter (pending.map .operator ++ stack) rest

theorem reads_operand (stack : List Waiting) (x : α) :
    Reads stack [.operand x] [.operand x] [] := by
  intro rest
  rfl

theorem reads_group {stack : List Waiting} {ts : List (Token α)} {out : List (Item α)}
    {pending : List Operator} (inner : Reads (.opening :: stack) ts out pending) :
    Reads stack (.opening :: (ts ++ [.closing])) (out ++ pending.map .operator) [] := by
  intro rest
  rw [List.cons_append, List.append_assoc, postfixAfter, inner]
  rw [List.singleton_append, postfixAfter, closeGroup?_append]
  simp only [List.map_nil, List.nil_append]
  cases postfixAfter stack rest with
  | error fault => rfl
  | ok items => simp [Functor.map, Except.map, bind, Except.bind, pure, Except.pure]

theorem reads_apply {stack : List Waiting} {ts us : List (Token α)} {o : Operator}
    {out out' : List (Item α)} {pending pending' : List Operator}
    (left : Reads stack ts out pending) (tight : ∀ q ∈ pending, o.precedence ≤ q.precedence)
    (held : Held o.precedence stack) (right : Reads (.operator o :: stack) us out' pending') :
    Reads stack (ts ++ .operator o :: us) (out ++ pending.map .operator ++ out')
      (pending' ++ [o]) := by
  intro rest
  have waiting : (pending' ++ [o]).map Waiting.operator ++ stack =
      pending'.map .operator ++ .operator o :: stack := by simp
  rw [List.append_assoc, left, List.cons_append, postfixAfter, release_append tight held, waiting]
  simp only [right rest]
  cases postfixAfter (pending'.map .operator ++ .operator o :: stack) rest with
  | error fault => rfl
  | ok items => simp [Functor.map, Except.map, bind, Except.bind, pure, Except.pure]

end Sidekick.Calculator
