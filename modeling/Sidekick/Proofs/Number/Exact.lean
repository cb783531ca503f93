import Sidekick.Proofs.Number.Overflow

namespace Sidekick.Number
open Float.Model UnpackedFloat

def withSign (negative : Bool) (q : ℚ) : ℚ := if negative then -q else q

namespace Binary

def magnitude (b : Binary) : ℚ := b.mantissa * 2 ^ b.exponent

def exact (b : Binary) : ℚ := withSign b.negative b.magnitude

end Binary

variable {negative : Bool} {q r : ℚ}

theorem withSign_withSign (negative : Bool) (q : ℚ) :
    withSign negative (withSign negative q) = q := by
  cases negative <;> simp [withSign]

theorem abs_withSign_sub (negative : Bool) (q r : ℚ) :
    |withSign negative q - withSign negative r| = |q - r| := by
  cases negative with
  | false => rfl
  | true =>
      simp only [withSign, if_true]
      rw [← abs_neg]
      ring_nf

theorem withSign_natCast (negative : Bool) (n : Nat) :
    withSign negative n = (signed negative n : Int) := by
  cases negative <;> simp [withSign, signed]

variable {n d : Nat}

theorem scaled_ratio {base : Nat} (hb : 0 < base) (n d : Nat) (e : Int) :
    ((scaled base n d e).1 : ℚ) / (scaled base n d e).2 = n / d * (base : ℚ) ^ e := by
  have nonzero : (base : ℚ) ≠ 0 := by positivity
  unfold scaled
  split
  · next natural =>
      obtain ⟨k, rfl⟩ := Int.eq_ofNat_of_zero_le natural
      rw [Int.toNat_natCast, Nat.pow_eq, zpow_natCast]
      push_cast
      ring
  · next negative =>
      obtain ⟨k, hk⟩ := Int.eq_ofNat_of_zero_le (show 0 ≤ -e by omega)
      obtain rfl : e = -k := by omega
      rw [neg_neg, Int.toNat_natCast, Nat.pow_eq, zpow_neg, zpow_natCast]
      push_cast
      rw [← div_eq_mul_inv, div_div]

theorem le_ratio_iff (hd : 0 < d) {c : Nat} : (c : ℚ) ≤ n / d ↔ c * d ≤ n := by
  have positive : (0 : ℚ) < d := by exact_mod_cast hd
  rw [le_div_iff₀ positive]
  exact_mod_cast Iff.rfl

theorem reaches_iff_le {c : Nat} {e : Int} (hd : 0 < d) :
    Reaches c n d e ↔ c * 2 ^ e ≤ (n / d : ℚ) := by
  have power : (0 : ℚ) < 2 ^ e := by positivity
  rw [Reaches, ← le_ratio_iff (scaled_pos Nat.two_pos hd), scaled_ratio (by decide), zpow_neg,
    ← div_eq_mul_inv, Nat.cast_ofNat, le_div_iff₀ power]

theorem two_pow_le_ratio (hn : 0 < n) (hd : 0 < d) : (2 : ℚ) ^ log2Quotient n d ≤ n / d := by
  have reaches := (log2Quotient_reaches hn hd).1
  rwa [reaches_iff_le hd, Nat.cast_one, one_mul] at reaches

theorem ratio_lt_two_pow (hn : 0 < n) (hd : 0 < d) :
    (n / d : ℚ) < 2 ^ (log2Quotient n d + 1) := by
  have short := (log2Quotient_reaches hn hd).2
  rwa [reaches_iff_le hd, Nat.cast_one, one_mul, not_le] at short

variable {b : Binary}

theorem Binary.magnitude_nonneg (b : Binary) : 0 ≤ b.magnitude := by
  unfold magnitude
  positivity

theorem fraction_pos (b : Binary) : 0 < b.fraction.2 := scaled_pos Nat.two_pos Nat.one_pos

theorem fraction_ratio (b : Binary) : (b.fraction.1 / b.fraction.2 : ℚ) = b.magnitude := by
  rw [Binary.fraction, scaled_ratio (by decide), Nat.cast_one, div_one]
  rfl

theorem isWhole_iff_magnitude : b.isWhole = true ↔ b.magnitude = b.wholePart := by
  have positive : (0 : ℚ) < b.fraction.2 := by exact_mod_cast fraction_pos b
  rw [Binary.isWhole, Binary.wholePart, beq_iff_eq, ← fraction_ratio, div_eq_iff positive.ne']
  have parts := Nat.div_add_mod' b.fraction.1 b.fraction.2
  norm_cast
  omega

theorem isWhole_iff_exact : b.isWhole = true ↔ ∃ z : Int, b.exact = z := by
  constructor
  · intro whole
    refine ⟨signed b.negative b.wholePart, ?_⟩
    rw [Binary.exact, isWhole_iff_magnitude.mp whole, withSign_natCast]
  · rintro ⟨z, eq⟩
    have magnitude : b.magnitude = z.natAbs := by
      have sign : b.magnitude = withSign b.negative z := by
        rw [← eq, Binary.exact, withSign_withSign]
      have natural := b.magnitude_nonneg
      rw [← abs_of_nonneg natural, sign, Nat.cast_natAbs, Int.cast_abs]
      cases b.negative <;> simp [withSign]
    have positive : (0 : ℚ) < b.fraction.2 := by exact_mod_cast fraction_pos b
    rw [← fraction_ratio, div_eq_iff positive.ne'] at magnitude
    norm_cast at magnitude
    rw [Binary.isWhole, magnitude, Nat.mul_mod_left]
    rfl

end Sidekick.Number
