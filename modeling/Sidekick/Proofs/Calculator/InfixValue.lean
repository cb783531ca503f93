import Sidekick.Proofs.Calculator.Lexing
import Sidekick.Proofs.Calculator.Loose

namespace Sidekick.Calculator
open Number

theorem evaluateWith_of_expression {α : Type} {read : List Char → Option α} {s : List Char}
    {t : Tree (List Char)} {t' : Tree α} (apply : Operator → α → α → α) (h : Expression s t)
    (value : t.read? read = some t') : evaluateWith read apply s = .ok (t'.value apply) := by
  obtain ⟨ts, order, cut⟩ := tokens_expression h value
  rw [evaluateWith, cut]
  simp only [bind, Except.bind, toPostfix_infix order]
  exact evaluatePostfix_postorder apply t'

theorem evaluate_expression {s : List Char} {t : Tree (List Char)} (h : Expression s t) :
    (∃ t', t.read? read? = some t' ∧
      ∀ apply, evaluateWith read? apply s = .ok (t'.value apply)) ∧
    ∀ s', Expression s' t → evaluate s' = evaluate s := by
  obtain ⟨u, e, v, -, derives, -, -⟩ := id h
  obtain ⟨t', value⟩ := Option.isSome_iff_exists.mp derives.isSome_read?
  refine ⟨⟨t', value, fun apply => evaluateWith_of_expression apply h value⟩, fun s' h' => ?_⟩
  rw [evaluate, evaluate, evaluateWith_of_expression arithmetic h value,
    evaluateWith_of_expression arithmetic h' value]

theorem evaluate_expression_typographic :
    Expression " 2×(−3 + .5)".toList
      (.node .mul (.leaf ['2']) (.node .add (.leaf ['-', '3']) (.leaf ['.', '5']))) ∧
    evaluate "2*((-3)+.5)".toList = evaluate " 2×(−3 + .5)".toList ∧
    evaluate " 2×(−3 + .5)".toList = .ok (-5) := by
  have two : Derives .factor ['2'] (.leaf ['2']) := .literal (by decide)
  have three : Derives .factor ['−', '3'] (.leaf ['-', '3']) :=
    .negative (by decide) (by decide)
  have plainThree : Derives .factor ['-', '3'] (.leaf ['-', '3']) :=
    .negative (by decide) (by decide)
  have half : Derives .factor ['.', '5'] (.leaf ['.', '5']) := .literal (by decide)
  have none : Text.Blanks [] := by decide
  have space : Text.Blanks [' '] := by decide
  have sum : Derives .sum "−3 + .5".toList
      (.node .add (.leaf ['-', '3']) (.leaf ['.', '5'])) :=
    .apply (o := .add) (s := ['−', '3']) (u := [' ']) (c := '+') (v := [' '])
      (.tighter (.tighter three)) space (by decide) space (.tighter half)
  have plainSum : Derives .sum "(-3)+.5".toList
      (.node .add (.leaf ['-', '3']) (.leaf ['.', '5'])) :=
    .apply (o := .add) (s := "(-3)".toList) (u := []) (c := '+') (v := [])
      (.tighter (.tighter (.group (u := []) (s := ['-', '3']) (v := []) none
        (.tighter (.tighter plainThree)) none))) none (by decide) none (.tighter half)
  have product : Expression " 2×(−3 + .5)".toList
      (.node .mul (.leaf ['2']) (.node .add (.leaf ['-', '3']) (.leaf ['.', '5']))) :=
    ⟨[' '], "2×(−3 + .5)".toList, [], space,
      .tighter (.apply (o := .mul) (s := ['2']) (u := []) (c := '×') (v := []) (.tighter two)
        none (by decide) none (.group (u := []) (s := "−3 + .5".toList) (v := []) none sum none)),
      none, rfl⟩
  have plainProduct : Expression "2*((-3)+.5)".toList
      (.node .mul (.leaf ['2']) (.node .add (.leaf ['-', '3']) (.leaf ['.', '5']))) :=
    ⟨[], "2*((-3)+.5)".toList, [], none,
      .tighter (.apply (o := .mul) (s := ['2']) (u := []) (c := '*') (v := []) (.tighter two)
        none (by decide) none
        (.group (u := []) (s := "(-3)+.5".toList) (v := []) none plainSum none)),
      none, rfl⟩
  exact ⟨product, (evaluate_expression product).2 _ plainProduct, rfl⟩

end Sidekick.Calculator
