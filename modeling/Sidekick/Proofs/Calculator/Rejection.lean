import Sidekick.Proofs.Calculator.Placement
import Sidekick.Proofs.Calculator.Spelling

namespace Sidekick.Calculator
open Number

/-- Tokens out of their places whose postfix order is that of a tree all the same. -/
def Disordered (s : List Char) : Prop :=
  ∃ (ts : List (Token Float)) (t : Tree Float),
    tokens read? s = .ok ts ∧ ¬ Placed ts ∧ Loose .sum ts t.postorder

theorem exists_expression_iff {s : List Char} :
    (∃ tree, Expression s tree) ↔
      ∃ ts, tokens read? s = .ok ts ∧ ∃ t, Infix .sum ts t := by
  constructor
  · rintro ⟨tree, h⟩
    obtain ⟨u, e, v, -, derives, -, -⟩ := id h
    obtain ⟨t, value⟩ := Option.isSome_iff_exists.mp derives.isSome_read?
    obtain ⟨ts, order, cut⟩ := tokens_expression h value
    exact ⟨ts, cut, t, order⟩
  · rintro ⟨ts, cut, t, order⟩
    exact expression_of_spelled order (spelled_of_tokens cut)

theorem evaluate_eq_ok_iff {s : List Char} {x : Float} :
    evaluate s = .ok x ↔ ∃ (ts : List (Token Float)) (t : Tree Float),
      tokens read? s = .ok ts ∧ Loose .sum ts t.postorder ∧ x = t.value arithmetic := by
  constructor
  · intro h
    obtain ⟨ts, cut, h⟩ := exists_of_bind_eq_ok h
    obtain ⟨items, order, h⟩ := exists_of_bind_eq_ok h
    obtain ⟨t, rfl, value⟩ := evaluatePostfix_eq_ok_iff.mp h
    exact ⟨ts, t, cut, toPostfix_eq_ok_iff.mp order, value⟩
  · rintro ⟨ts, t, cut, order, rfl⟩
    rw [evaluate, evaluateWith, cut]
    simp only [bind, Except.bind, toPostfix_eq_ok_iff.mpr order]
    exact evaluatePostfix_postorder arithmetic t

theorem exists_value_iff {s : List Char} :
    (∃ x, evaluate s = .ok x) ↔ (∃ tree, Expression s tree) ∨ Disordered s := by
  constructor
  · rintro ⟨x, h⟩
    obtain ⟨ts, t, cut, order, -⟩ := evaluate_eq_ok_iff.mp h
    by_cases placed : Placed ts
    · obtain ⟨t, order⟩ := exists_infix_iff.mpr ⟨placed, _, order⟩
      exact .inl (exists_expression_iff.mpr ⟨ts, cut, t, order⟩)
    · exact .inr ⟨ts, t, cut, placed, order⟩
  · rintro (expression | ⟨ts, t, cut, -, order⟩)
    · obtain ⟨ts, cut, t, order⟩ := exists_expression_iff.mp expression
      exact ⟨_, evaluate_eq_ok_iff.mpr ⟨ts, t, cut, loose_of_order order, rfl⟩⟩
    · exact ⟨_, evaluate_eq_ok_iff.mpr ⟨ts, t, cut, order, rfl⟩⟩

theorem not_disordered_of_expression {s : List Char} {tree : Tree (List Char)}
    (h : Expression s tree) : ¬ Disordered s := by
  rintro ⟨ts, t, cut, misplaced, -⟩
  obtain ⟨ts', cut', order⟩ := exists_expression_iff.mp ⟨tree, h⟩
  obtain rfl : ts' = ts := Except.ok.inj (cut'.symm.trans cut)
  exact misplaced (exists_infix_iff.mp order).1

theorem rejected_iff_not_disordered (s : List Char) :
    ((¬ ∃ tree, Expression s tree) → ∃ fault, evaluate s = .error fault) ↔ ¬ Disordered s := by
  constructor
  · intro rejected disordered
    have none : ¬ ∃ tree, Expression s tree := fun ⟨_, h⟩ =>
      not_disordered_of_expression h disordered
    obtain ⟨fault, failed⟩ := rejected none
    obtain ⟨x, value⟩ := exists_value_iff.mpr (.inr disordered)
    rw [failed] at value
    cases value
  · intro ordered none
    cases result : evaluate s with
    | error fault => exact ⟨fault, rfl⟩
    | ok x =>
        rcases exists_value_iff.mp ⟨x, result⟩ with expression | disordered
        · exact absurd expression none
        · exact absurd disordered ordered

theorem not_rejected_operator_first :
    ¬ ((¬ ∃ tree, Expression "- 5 3".toList tree) →
      ∃ fault, evaluate "- 5 3".toList = .error fault) := by
  have cut : tokens read? "- 5 3".toList = .ok [.operator .sub, .operand 5, .operand 3] := by rfl
  have value : evaluate "- 5 3".toList = .ok 2 := by rfl
  intro rejected
  have none : ¬ ∃ tree, Expression "- 5 3".toList tree := by
    rw [exists_expression_iff]
    rintro ⟨ts, cut', order⟩
    rw [cut] at cut'
    obtain rfl := Except.ok.inj cut'
    exact absurd (exists_infix_iff.mp order).1 (by decide)
  obtain ⟨fault, failed⟩ := rejected none
  rw [value] at failed
  cases failed

end Sidekick.Calculator
