import Mathlib.Tactic.Ring
import Sidekick.Number.Hexadecimal

namespace Sidekick.Number
open Text

theorem lt_of_hexValue? {c : Char} {n : Nat} (h : hexValue? c = some n) : n < 16 := by
  have nine : '9'.toNat = 57 ∧ '0'.toNat = 48 := by decide
  have letters : 'a'.toNat = 97 ∧ 'f'.toNat = 102 ∧ 'A'.toNat = 65 ∧ 'F'.toNat = 70 := by decide
  have le : ∀ a b : Char, a ≤ b ↔ a.toNat ≤ b.toNat := fun a b => UInt32.le_iff_toNat_le
  simp only [hexValue?, Char.isDigit_iff_toNat, le] at h
  split at h
  · cases h
    omega
  · split at h
    · cases h
      omega
    · split at h
      · cases h
        omega
      · cases h

theorem length_le_of_ungroup {isDigit : Char → Bool} {s t : List Char} {previous : Char}
    (h : ungroup isDigit previous s = some t) : t.length ≤ s.length := by
  fun_induction ungroup isDigit previous s generalizing t with
  | case1 => cases h
  | case2 => cases h; simp
  | case3 previous s digit ih => exact Nat.le_succ_of_le (ih h)
  | case4 => cases h
  | case5 => cases h
  | case6 previous c s other digit ih =>
      obtain ⟨r, found, rfl⟩ := Option.map_eq_some_iff.mp h
      simpa using ih found

theorem length_takeSign (s : List Char) : (takeSign s).2.length ≤ s.length := by
  unfold takeSign
  split <;> simp

theorem length_dropMark (s : List Char) : (dropMark s).length ≤ s.length := by
  unfold dropMark
  split
  · split <;> simp only [List.length_cons] <;> omega
  · split <;> simp only [List.length_cons] <;> omega
  · exact Nat.le_refl _

-- The number read so far grows to at most sixteen times one more, less one.
theorem lt_of_foldlM_hexValue? {s : List Char} {a n : Nat}
    (h : s.foldlM (fun n c => (hexValue? c).map (16 * n + ·)) a = some n) :
    n < (a + 1) * 16 ^ s.length := by
  induction s generalizing a with
  | nil =>
      cases h
      simp
  | cons c s ih =>
      obtain ⟨b, step, rest⟩ := Option.bind_eq_some_iff.mp h
      obtain ⟨d, digit, rfl⟩ := Option.map_eq_some_iff.mp step
      have small := lt_of_hexValue? digit
      calc n < (16 * a + d + 1) * 16 ^ s.length := ih rest
        _ ≤ (16 * (a + 1)) * 16 ^ s.length := Nat.mul_le_mul_right _ (by omega)
        _ = (a + 1) * 16 ^ (c :: s).length := by rw [List.length_cons, Nat.pow_succ]; ring

theorem lt_of_readHex? {s : List Char} {n : Int} (h : readHex? s = some n) :
    n < 16 ^ s.length := by
  simp only [readHex?, Option.bind_eq_bind, Option.bind_eq_some_iff] at h
  obtain ⟨digits, ungrouped, h⟩ := h
  split at h
  · cases h
  · obtain ⟨m, read, eq⟩ := Option.bind_eq_some_iff.mp h
    have few : digits.length ≤ s.length := by
      refine (length_le_of_ungroup ungrouped).trans ((length_dropMark _).trans ?_)
      refine (length_takeSign _).trans ?_
      rw [List.length_map, List.length_reverse]
      refine (List.dropWhile_suffix _).length_le.trans ?_
      rw [List.length_reverse]
      exact (List.dropWhile_suffix _).length_le
    have bound : m < 16 ^ s.length := by
      have below := lt_of_foldlM_hexValue? read
      rw [Nat.zero_add, Nat.one_mul] at below
      exact below.trans_le (Nat.pow_le_pow_right (by decide) few)
    have largest : n ≤ m := by
      obtain rfl := Option.some.inj eq
      unfold signed
      split <;> omega
    calc n ≤ m := largest
      _ < 16 ^ s.length := by exact_mod_cast bound

end Sidekick.Number
