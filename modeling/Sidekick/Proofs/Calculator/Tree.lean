import Sidekick.Calculator.Evaluation

namespace Sidekick.Calculator

inductive Tree (α : Type) where
  | leaf (value : α)
  | node (o : Operator) (left right : Tree α)
  deriving DecidableEq

namespace Tree

variable {α β : Type}

def postorder : Tree α → List (Item α)
  | leaf x => [.operand x]
  | node o a b => a.postorder ++ b.postorder ++ [.operator o]

def value (apply : Operator → α → α → α) : Tree α → α
  | leaf x => x
  | node o a b => apply o (a.value apply) (b.value apply)

def read? (read : β → Option α) : Tree β → Option (Tree α)
  | leaf text => (read text).map leaf
  | node o a b => do return node o (← a.read? read) (← b.read? read)

theorem read?_node {read : β → Option α} {o : Operator} {a b : Tree β} {t : Tree α}
    (h : (node o a b).read? read = some t) :
    ∃ a' b', a.read? read = some a' ∧ b.read? read = some b' ∧ t = node o a' b' := by
  cases ha : a.read? read with
  | none => simp [Tree.read?, ha] at h
  | some a' =>
      cases hb : b.read? read with
      | none => simp [Tree.read?, ha, hb] at h
      | some b' => exact ⟨a', b', rfl, rfl, by simpa [Tree.read?, ha, hb] using h.symm⟩

end Tree

theorem evaluateOn_postorder {α : Type} (apply : Operator → α → α → α) (t : Tree α)
    (stack : List α) (rest : List (Item α)) :
    evaluateOn apply stack (t.postorder ++ rest) =
      evaluateOn apply (t.value apply :: stack) rest := by
  induction t generalizing stack rest with
  | leaf x => simp [Tree.postorder, Tree.value, evaluateOn]
  | node o a b iha ihb =>
      simp only [Tree.postorder, List.append_assoc, iha, ihb]
      simp only [List.singleton_append, evaluateOn, Tree.value]

theorem evaluatePostfix_postorder {α : Type} (apply : Operator → α → α → α) (t : Tree α) :
    evaluatePostfix apply t.postorder = .ok (t.value apply) := by
  have h := evaluateOn_postorder apply t [] []
  rw [List.append_nil] at h
  rw [evaluatePostfix, h, evaluateOn]

-- The stack holds the values of the trees read so far, the last one on top.
theorem postorder_of_evaluateOn {α : Type} {apply : Operator → α → α → α} {forest : List (Tree α)}
    {items : List (Item α)} {x : α}
    (h : evaluateOn apply (forest.map (Tree.value apply)) items = .ok x) :
    ∃ t : Tree α, forest.reverse.flatMap Tree.postorder ++ items = t.postorder ∧
      x = t.value apply := by
  induction items generalizing forest with
  | nil =>
      match forest with
      | [] => cases h
      | [t] =>
          cases h
          exact ⟨t, by simp, rfl⟩
      | _ :: _ :: _ => cases h
  | cons i items ih =>
      cases i with
      | operand y =>
          rw [evaluateOn] at h
          obtain ⟨t, order, value⟩ := @ih (.leaf y :: forest) h
          exact ⟨t, by simpa [Tree.postorder] using order, value⟩
      | operator o =>
          match forest with
          | [] => cases h
          | [_] => cases h
          | b :: a :: forest =>
              obtain ⟨t, order, value⟩ := @ih (.node o a b :: forest) h
              exact ⟨t, by simpa [Tree.postorder] using order, value⟩

theorem evaluatePostfix_eq_ok_iff {α : Type} {apply : Operator → α → α → α}
    {items : List (Item α)} {x : α} :
    evaluatePostfix apply items = .ok x ↔ ∃ t : Tree α, items = t.postorder ∧ x = t.value apply := by
  constructor
  · intro h
    exact @postorder_of_evaluateOn _ _ [] _ _ h
  · rintro ⟨t, rfl, rfl⟩
    exact evaluatePostfix_postorder apply t

end Sidekick.Calculator
