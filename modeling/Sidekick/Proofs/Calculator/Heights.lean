import Mathlib.Logic.ExistsUnique
import Sidekick.Proofs.Calculator.Tree

namespace Sidekick.Calculator

variable {α : Type}

def Item.isOperand : Item α → Bool
  | operand _ => true
  | operator _ => false

def height (items : List (Item α)) : Int :=
  items.countP Item.isOperand - items.countP (!·.isOperand)

@[simp] theorem height_nil : height ([] : List (Item α)) = 0 := rfl

@[simp] theorem height_operand (x : α) (items : List (Item α)) :
    height (.operand x :: items) = height items + 1 := by
  rw [height, List.countP_cons_of_pos rfl, List.countP_cons_of_neg Bool.false_ne_true, height]
  omega

@[simp] theorem height_operator (o : Operator) (items : List (Item α)) :
    height (.operator o :: items) = height items - 1 := by
  rw [height, List.countP_cons_of_neg Bool.false_ne_true, List.countP_cons_of_pos rfl, height]
  omega

def Starves (n : Int) (items : List (Item α)) : Prop :=
  ∃ before o after, items = before ++ .operator o :: after ∧ n + height before < 2

theorem not_starves_nil (n : Int) : ¬ Starves n ([] : List (Item α)) := by
  rintro ⟨before, o, after, eq, -⟩
  simp at eq

theorem starves_operand {n : Int} {x : α} {items : List (Item α)} :
    Starves n (.operand x :: items) ↔ Starves (n + 1) items := by
  constructor
  · rintro ⟨before, o, after, eq, low⟩
    cases before with
    | nil => cases eq
    | cons i before =>
        obtain ⟨rfl, rfl⟩ := List.cons.inj eq
        rw [height_operand] at low
        exact ⟨before, o, after, rfl, by omega⟩
  · rintro ⟨before, o, after, rfl, low⟩
    refine ⟨.operand x :: before, o, after, rfl, ?_⟩
    rw [height_operand]
    omega

theorem starves_operator {n : Int} {o : Operator} {items : List (Item α)} :
    Starves n (.operator o :: items) ↔ n < 2 ∨ Starves (n - 1) items := by
  constructor
  · rintro ⟨before, p, after, eq, low⟩
    cases before with
    | nil => exact .inl (by simpa using low)
    | cons i before =>
        obtain ⟨rfl, rfl⟩ := List.cons.inj eq
        rw [height_operator] at low
        exact .inr ⟨before, p, after, rfl, by omega⟩
  · rintro (low | ⟨before, p, after, rfl, low⟩)
    · exact ⟨[], o, items, rfl, by simpa using low⟩
    · refine ⟨.operator o :: before, p, after, rfl, ?_⟩
      rw [height_operator]
      omega

/-- What comes of items on a stack of `n` values, which their heights decide. -/
def EndsByHeight (n : Int) (items : List (Item α)) (result : Except Fault α) : Prop :=
  Starves n items ∧ result = .error .missingOperand ∨
    ¬ Starves n items ∧ (n + height items ≠ 1 ∧ result = .error .invalidExpression ∨
      n + height items = 1 ∧ ∃ x, result = .ok x)

theorem evaluateOn_by_height (apply : Operator → α → α → α) (stack : List α)
    (items : List (Item α)) :
    EndsByHeight stack.length items (evaluateOn apply stack items) := by
  induction items generalizing stack with
  | nil =>
      refine .inr ⟨not_starves_nil _, ?_⟩
      match stack with
      | [] => exact .inl ⟨by simp, rfl⟩
      | [x] => exact .inr ⟨by simp, x, rfl⟩
      | _ :: _ :: stack => exact .inl ⟨by simp; omega, rfl⟩
  | cons i items ih =>
      cases i with
      | operand x =>
          have higher : (stack.length : Int) + 1 = (x :: stack).length := by simp
          have total : (stack.length : Int) + (height items + 1) =
              (x :: stack).length + height items := by omega
          rw [EndsByHeight, starves_operand, height_operand, total, higher, evaluateOn]
          exact ih (x :: stack)
      | operator o =>
          match stack with
          | [] => exact .inl ⟨starves_operator.mpr (.inl (by simp)), rfl⟩
          | [_] => exact .inl ⟨starves_operator.mpr (.inl (by simp)), rfl⟩
          | b :: a :: stack =>
              have lower : ((b :: a :: stack).length : Int) - 1 =
                  (apply o a b :: stack).length := by simp
              have total : ((b :: a :: stack).length : Int) + (height items - 1) =
                  (apply o a b :: stack).length + height items := by omega
              have enough : ¬ ((b :: a :: stack).length : Int) < 2 := by
                rw [List.length_cons, List.length_cons]
                omega
              rw [EndsByHeight, starves_operator, height_operator, total, lower, evaluateOn,
                or_iff_right enough]
              exact ih (apply o a b :: stack)

theorem evaluatePostfix_ends (apply : Operator → α → α → α) (items : List (Item α)) :
    EndsByHeight 0 items (evaluatePostfix apply items) :=
  evaluateOn_by_height apply [] items

theorem Tree.append_postorder_inj {s t : Tree α} {before before' : List (Item α)}
    (same : before ++ s.postorder = before' ++ t.postorder) : before = before' ∧ s = t := by
  induction s generalizing t before before' with
  | leaf x =>
      cases t with
      | leaf y =>
          obtain ⟨rfl, last⟩ := List.append_inj' same rfl
          cases last
          exact ⟨rfl, rfl⟩
      | node p c d =>
          rw [Tree.postorder, Tree.postorder, ← List.append_assoc] at same
          cases (List.append_inj' same rfl).2
  | node o a b iha ihb =>
      cases t with
      | leaf y =>
          rw [Tree.postorder, Tree.postorder, ← List.append_assoc] at same
          cases (List.append_inj' same rfl).2
      | node p c d =>
          rw [Tree.postorder, Tree.postorder, ← List.append_assoc, ← List.append_assoc,
            ← List.append_assoc, ← List.append_assoc] at same
          obtain ⟨parts, last⟩ := List.append_inj' same rfl
          cases last
          obtain ⟨left, rfl⟩ := ihb parts
          obtain ⟨rfl, rfl⟩ := iha left
          exact ⟨rfl, rfl⟩

theorem Tree.postorder_injective : Function.Injective (Tree.postorder (α := α)) :=
  fun _ _ same => (append_postorder_inj (congrArg ([] ++ ·) same)).2

theorem evaluatePostfix_by_height (apply : Operator → α → α → α) (items : List (Item α)) :
    ((∃ x, evaluatePostfix apply items = .ok x) ↔ ∃! t : Tree α, t.postorder = items) ∧
    (∀ t : Tree α, t.postorder = items → evaluatePostfix apply items = .ok (t.value apply)) ∧
    (evaluatePostfix apply items = .error .missingOperand ↔ Starves 0 items) ∧
    (evaluatePostfix apply items = .error .invalidExpression ↔
      ¬ Starves 0 items ∧ height items ≠ 1) ∧
    ∀ fault, evaluatePostfix apply items = .error fault →
      fault = .missingOperand ∨ fault = .invalidExpression := by
  refine ⟨⟨?_, ?_⟩, ?_, ?_⟩
  · rintro ⟨x, returned⟩
    obtain ⟨t, rfl, -⟩ := evaluatePostfix_eq_ok_iff.mp returned
    exact ⟨t, rfl, fun _ same => Tree.postorder_injective same⟩
  · rintro ⟨t, rfl, -⟩
    exact ⟨_, evaluatePostfix_postorder apply t⟩
  · rintro t rfl
    exact evaluatePostfix_postorder apply t
  · have ends := evaluatePostfix_ends apply items
    rw [EndsByHeight, Int.zero_add] at ends
    rcases ends with ⟨starves, result⟩ | ⟨fed, ⟨height, result⟩ | ⟨height, x, result⟩⟩
    · simp [result, starves]
    · simp [result, fed, height]
    · simp [result, fed, height]

end Sidekick.Calculator
