/-!
# Loops

A loop takes its turns as long as something is left to do, and every turn does some of it. So it
ends after so many turns at most, with what its turns keep and with what they lead to.
-/

namespace Sidekick

/-- A turn fails, leaves the loop, or goes on from a state with less left to do. -/
structure Loop (ε σ : Type) where
  turn : σ → Except ε (Option σ)
  left : σ → Nat
  decreases : ∀ {a b : σ}, turn a = .ok (some b) → left b < left a

namespace Loop

variable {ε σ : Type}

/-- From `a` on, the loop ends with `r` after `n` turns. -/
inductive Ends (l : Loop ε σ) : Nat → σ → Except ε σ → Prop
  | leaves {a : σ} : l.turn a = .ok none → Ends l 0 a (.ok a)
  | fails {a : σ} {fault : ε} : l.turn a = .error fault → Ends l 0 a (.error fault)
  | next {n : Nat} {a b : σ} {r : Except ε σ} : l.turn a = .ok (some b) → Ends l n b r →
      Ends l (n + 1) a r

/-- What comes of a turn: `done` if it leaves the loop, and what `next` makes of the state from
which it goes on. -/
def settle {β : Type} (done : β) (next : σ → Except ε β) : Except ε (Option σ) → Except ε β
  | .error fault => .error fault
  | .ok none => .ok done
  | .ok (some b) => next b

def run (l : Loop ε σ) (a : σ) : Except ε σ :=
  match _h : l.turn a with
  | .error fault => .error fault
  | .ok none => .ok a
  | .ok (some b) => run l b
termination_by l.left a
decreasing_by exact l.decreases _h

variable (l : Loop ε σ) {a b : σ}

theorem run_eq (a : σ) : l.run a = settle a l.run (l.turn a) := by
  rw [run]
  split <;> rename_i found <;> rw [found, settle]

theorem exists_ends (a : σ) : ∃ n ≤ l.left a, l.Ends n a (l.run a) := by
  rw [run_eq]
  match found : l.turn a with
  | .error fault => exact ⟨0, Nat.zero_le _, .fails found⟩
  | .ok none => exact ⟨0, Nat.zero_le _, .leaves found⟩
  | .ok (some b) =>
      have less := l.decreases found
      obtain ⟨n, le, ends⟩ := exists_ends b
      exact ⟨n + 1, Nat.lt_of_le_of_lt le less, .next found ends⟩
termination_by l.left a

theorem invariant {kept : σ → Prop}
    (step : ∀ {a b}, kept a → l.turn a = .ok (some b) → kept b) (start : kept a)
    (left : l.run a = .ok b) : kept b ∧ l.turn b = .ok none := by
  obtain ⟨n, -, ends⟩ := l.exists_ends a
  rw [left] at ends
  generalize eq : Except.ok b = r at ends
  clear left
  induction ends with
  | leaves found =>
      cases eq
      exact ⟨start, found⟩
  | fails => cases eq
  | next found _ ih => exact ih (step start found) eq

theorem map_run {β : Type} {meaning : σ → Except ε β} {answer : σ → β}
    (step : ∀ a, meaning a = settle (answer a) meaning (l.turn a)) (a : σ) :
    (l.run a).map answer = meaning a := by
  obtain ⟨n, -, ends⟩ := l.exists_ends a
  generalize l.run a = r at ends
  induction ends with
  | leaves found | fails found =>
      rw [step, found]
      rfl
  | next found _ ih =>
      rw [step, found]
      exact ih

end Loop

end Sidekick
