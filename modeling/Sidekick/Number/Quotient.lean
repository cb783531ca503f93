/-!
# Quotients of natural numbers

A quotient is a pair of a numerator and a denominator. It is scaled exactly and rounded to the
nearest integer, a half to the even neighbour.
-/

namespace Sidekick.Number

abbrev twoPow (k : Nat) : Nat := Nat.pow 2 k

abbrev tenPow (k : Nat) : Nat := Nat.pow 10 k

/-- The quotient `n / d` times `base ^ e`. -/
def scaled (base n d : Nat) (e : Int) : Nat × Nat :=
  if 0 ≤ e then (n * Nat.pow base e.toNat, d) else (n, d * Nat.pow base (-e).toNat)

def divNearest (n d : Nat) : Nat :=
  let q := n / d
  let r := n % d
  if 2 * r < d then q
  else if d < 2 * r then q + 1
  else if q % 2 = 0 then q else q + 1

theorem divNearest_cases (n d : Nat) :
    (divNearest n d = n / d ∧ 2 * (n % d) ≤ d ∧ (2 * (n % d) = d → n / d % 2 = 0)) ∨
      (divNearest n d = n / d + 1 ∧ d ≤ 2 * (n % d) ∧ (2 * (n % d) = d → n / d % 2 = 1)) := by
  unfold divNearest
  dsimp only
  split
  · exact .inl ⟨rfl, by omega, by omega⟩
  · split
    · exact .inr ⟨rfl, by omega, by omega⟩
    · split
      · exact .inl ⟨rfl, by omega, by omega⟩
      · exact .inr ⟨rfl, by omega, by omega⟩

theorem divNearest_within_half {n d : Nat} (hd : 0 < d) :
    2 * n ≤ 2 * (divNearest n d * d) + d ∧ 2 * (divNearest n d * d) ≤ 2 * n + d := by
  have parts := Nat.div_add_mod' n d
  have below := Nat.mod_lt n hd
  have outcome := divNearest_cases n d
  generalize n / d = q, n % d = r, divNearest n d = m at *
  rcases outcome with ⟨rfl, hr, -⟩ | ⟨rfl, hr, -⟩
  · omega
  · rw [Nat.add_one_mul q d]
    omega

theorem divNearest_even_of_half {n d : Nat} (hd : 0 < d)
    (h : 2 * n = 2 * (divNearest n d * d) + d ∨ 2 * (divNearest n d * d) = 2 * n + d) :
    divNearest n d % 2 = 0 := by
  have parts := Nat.div_add_mod' n d
  have below := Nat.mod_lt n hd
  have outcome := divNearest_cases n d
  generalize n / d = q, n % d = r, divNearest n d = m at *
  rcases outcome with ⟨rfl, hr, he⟩ | ⟨rfl, hr, he⟩
  · exact he (by omega)
  · rw [Nat.add_one_mul q d] at h
    have := he (by omega)
    omega

end Sidekick.Number
