import Mathlib.Data.List.Chain
import Sidekick.Calculator.Lexer
import Sidekick.Proofs.Calculator.Loose

namespace Sidekick.Calculator

variable {α : Type}

def beginsOperand : Option (Token α) → Bool
  | some (.operand _) | some .opening => true
  | none | some (.operator _) | some .closing => false

/-- May these two be neighbours? The start and the end are `none`. -/
def Fits (last next : Option (Token α)) : Prop := operandMayFollow last = beginsOperand next

instance (last next : Option (Token α)) : Decidable (Fits last next) :=
  inferInstanceAs (Decidable (_ = _))

def PlacedBetween (last : Option (Token α)) (ts : List (Token α)) (next : Option (Token α)) :
    Prop :=
  List.IsChain Fits (last :: (ts.map some ++ [next]))

def Placed (ts : List (Token α)) : Prop := PlacedBetween none ts none

instance (ts : List (Token α)) : Decidable (Placed ts) :=
  inferInstanceAs (Decidable (List.IsChain Fits _))

variable {last next : Option (Token α)} {ts us : List (Token α)}

theorem placedBetween_nil : PlacedBetween last [] next ↔ Fits last next :=
  List.isChain_pair

theorem placedBetween_append (t : Token α) : PlacedBetween last (ts ++ t :: us) next ↔
    PlacedBetween last ts (some t) ∧ PlacedBetween (some t) us next := by
  unfold PlacedBetween
  rw [List.map_append, List.map_cons, List.append_assoc, List.cons_append,
    List.isChain_cons_split]

theorem placedBetween_cons (t : Token α) : PlacedBetween last (t :: us) next ↔
    Fits last (some t) ∧ PlacedBetween (some t) us next := by
  rw [← @placedBetween_nil _ last]
  exact @placedBetween_append _ last next [] us t

theorem placedBetween_of_order {p : Phrase} {t : Tree α} (h : Infix p ts t)
    (free : operandMayFollow last = true) (ends : beginsOperand next = false) :
    PlacedBetween last ts next := by
  induction h generalizing last next with
  | operand x =>
      rw [placedBetween_cons, placedBetween_nil]
      exact ⟨free, ends.symm⟩
  | group _ ih =>
      rw [placedBetween_cons, placedBetween_append, placedBetween_nil]
      exact ⟨free, ih rfl rfl, ends.symm⟩
  | tighter _ ih => exact ih free ends
  | apply _ _ iha ihb =>
      rw [placedBetween_append]
      exact ⟨iha free rfl, ihb rfl ends⟩

theorem Loose.run_nil_or {p : Phrase} {is : List (Item α)} (h : Loose p ts is)
    (run : p = .factor) :
    ts = [] ∧ is = [] ∨ ∃ us t, ts = us ++ [t] ∧ operandMayFollow (some t) = false := by
  induction h with
  | empty => exact .inl ⟨rfl, rfl⟩
  | operand x => exact .inr ⟨_, .operand x, rfl, rfl⟩
  | @group ts us _ _ _ _ =>
      refine .inr ⟨ts ++ .opening :: us, .closing, ?_, rfl⟩
      rw [List.append_assoc, List.cons_append]
  | tighter _ ih =>
      cases run
      exact ih rfl
  | @apply o => cases o <;> cases run

theorem Loose.run_eq_nil {is : List (Item α)} (h : Loose .factor ts is)
    (placed : PlacedBetween last ts next) (begins : beginsOperand next = true) :
    ts = [] ∧ is = [] := by
  rcases h.run_nil_or rfl with empty | ⟨us, t, rfl, full⟩
  · exact empty
  · have fits := placedBetween_nil.mp ((placedBetween_append t).mp placed).2
    rw [Fits, full, begins] at fits
    cases fits

theorem infix_of_loose {p : Phrase} {is : List (Item α)} (h : Loose p ts is)
    (placed : PlacedBetween last ts next) (free : operandMayFollow last = true)
    (ends : beginsOperand next = false) : ∃ t, Infix p ts t ∧ is = t.postorder := by
  induction h generalizing last next with
  | empty =>
      have fits := placedBetween_nil.mp placed
      rw [Fits, free, ends] at fits
      cases fits
  | operand x run =>
      obtain ⟨before, -⟩ := (placedBetween_append _).mp placed
      obtain ⟨rfl, rfl⟩ := run.run_eq_nil before rfl
      exact ⟨.leaf x, .operand x, rfl⟩
  | group run _ _ ih =>
      obtain ⟨before, after⟩ := (placedBetween_append _).mp placed
      obtain ⟨rfl, rfl⟩ := run.run_eq_nil before rfl
      obtain ⟨inner, -⟩ := (placedBetween_append _).mp after
      obtain ⟨t, order, rfl⟩ := ih inner rfl rfl
      exact ⟨t, .group order, rfl⟩
  | tighter _ ih =>
      obtain ⟨t, order, rfl⟩ := ih placed free ends
      exact ⟨t, .tighter order, rfl⟩
  | @apply o _ _ _ _ _ _ iha ihb =>
      obtain ⟨left, right⟩ := (placedBetween_append _).mp placed
      obtain ⟨a, order, rfl⟩ := iha left free rfl
      obtain ⟨b, order', rfl⟩ := ihb right rfl ends
      exact ⟨.node o a b, .apply order order', rfl⟩

theorem exists_infix_iff :
    (∃ t, Infix .sum ts t) ↔ Placed ts ∧ ∃ is, Loose .sum ts is := by
  constructor
  · rintro ⟨t, order⟩
    exact ⟨placedBetween_of_order order rfl rfl, _, loose_of_order order⟩
  · rintro ⟨placed, is, loose⟩
    obtain ⟨t, order, -⟩ := infix_of_loose loose placed rfl rfl
    exact ⟨t, order⟩

end Sidekick.Calculator
