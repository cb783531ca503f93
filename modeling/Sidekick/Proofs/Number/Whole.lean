import Sidekick.Number.Nearest
import Sidekick.Number.Rounding
import Sidekick.Proofs.Number.Rounded

namespace Sidekick.Number
open Float.Model UnpackedFloat

theorem toNat_unpackMantissa (b : BitVec 64) :
    (@unpackMantissa .binary64 b).toNat = b.toNat % 2 ^ 52 := by
  simp [unpackMantissa]

theorem toNat_unpackExponent (b : BitVec 64) :
    (@unpackExponent .binary64 b).toNat = b.toNat / 2 ^ 52 % 2 ^ 11 := by
  simp [unpackExponent, Nat.shiftRight_eq_div_pow]

def isNegative : Sign → Bool
  | .negative => true
  | .positive => false

theorem isNegative_unpackSign (b : BitVec 64) :
    isNegative (.ofBitVec (@unpackSign .binary64 b)) = decide (2 ^ 63 ≤ b.toNat) := by
  have bits := b.isLt
  have field : (@unpackSign .binary64 b).toNat = b.toNat / 2 ^ 63 := by
    simp [unpackSign, Nat.shiftRight_eq_div_pow]
    omega
  have one : Sign.ofBitVec (@unpackSign .binary64 b) =
      if (@unpackSign .binary64 b).toNat = 0 then .positive else .negative := by
    simp [Sign.ofBitVec, BitVec.toNat_eq]
  rw [one, field]
  split <;> simp [isNegative] <;> omega

def valueOf : UnpackedFloat → Value
  | .notANumber => .nan
  | .infinity s => .infinite (isNegative s)
  | .zero s => .finite ⟨isNegative s, 0, -1074⟩
  | .finite s m e _ => .finite ⟨isNegative s, m, e⟩

theorem unpack_hidden {b : BitVec 64} {n f : Nat} (field : b.toNat / 2 ^ 52 % 2 ^ 11 = n)
    (fraction : b.toNat % 2 ^ 52 = f) (least : n ≠ 0) (most : n ≠ 2047) :
    ∃ pos, unpack .binary64 b =
      .finite (.ofBitVec (@unpackSign .binary64 b)) (f + 2 ^ 52) (n - 1075) pos := by
  have notLargest : @unpackExponent .binary64 b ≠ -1#11 := fun eq => by
    have same := congrArg BitVec.toNat eq
    rw [toNat_unpackExponent, field] at same
    exact most same
  have notLeast : @unpackExponent .binary64 b ≠ 0#11 := fun eq => by
    have same := congrArg BitVec.toNat eq
    rw [toNat_unpackExponent, field] at same
    exact least same
  have whole : (1#1 ++ @unpackMantissa .binary64 b).toNat = f + 2 ^ 52 := by
    rw [toNat_hidden, toNat_unpackMantissa, fraction, Nat.add_comm]
  refine ⟨by omega, ?_⟩
  rw [UnpackedFloat.unpack]
  simp only [if_neg notLargest, if_neg notLeast, whole, toNat_unpackExponent, field]
  congr 1

theorem valueOf_unpack {b : BitVec 64} (small : b.toNat / 2 ^ 52 % 2048 ≠ 2047) :
    valueOf (unpack .binary64 b) = .finite
      (if b.toNat / 2 ^ 52 % 2048 = 0 then ⟨decide (2 ^ 63 ≤ b.toNat), b.toNat % 2 ^ 52, -1074⟩
      else ⟨decide (2 ^ 63 ≤ b.toNat), b.toNat % 2 ^ 52 + 2 ^ 52,
        (b.toNat / 2 ^ 52 % 2048 : Nat) - 1075⟩) := by
  rw [← isNegative_unpackSign]
  by_cases least : b.toNat / 2 ^ 52 % 2048 = 0
  · have smallest : @unpackExponent .binary64 b = 0#11 :=
      BitVec.toNat_inj.mp ((toNat_unpackExponent b).trans least)
    have notLargest : (0#11 : BitVec 11) ≠ -1#11 := by decide
    rw [if_pos least, UnpackedFloat.unpack, ← toNat_unpackMantissa]
    simp only [smallest, if_neg notLargest, if_true]
    split
    · next zero =>
        rw [zero]
        rfl
    · rfl
  · obtain ⟨pos, unpacked⟩ := unpack_hidden rfl rfl least small
    rw [unpacked, if_neg least]
    rfl

theorem value_eq (x : Float) : value x = valueOf x.toModel.unpack := by
  generalize hb : x.toModel.toBits.toBitVec = b
  have bits : x.toBits.toNat = b.toNat := by rw [← hb]; rfl
  have word (k : Nat) : twoPow k = 2 ^ k := rfl
  rw [value, bits, Float.Model.unpack, hb]
  simp only [word]
  by_cases infinite : b.toNat / 2 ^ 52 % 2048 = 2047
  · have largest : @unpackExponent .binary64 b = -1#11 :=
      BitVec.toNat_inj.mp ((toNat_unpackExponent b).trans infinite)
    have none : b.toNat % 2 ^ 52 = 0 ↔ @unpackMantissa .binary64 b = 0#52 := by
      rw [← BitVec.toNat_inj, toNat_unpackMantissa]
      rfl
    rw [if_pos infinite, UnpackedFloat.unpack, ← isNegative_unpackSign]
    simp only [largest, if_true, none]
    split <;> rfl
  · rw [if_neg infinite, valueOf_unpack infinite]
    split <;> rfl

theorem isPlaced_of_value {x : Float} {b : Binary} (h : value x = .finite b) :
    IsPlaced b.mantissa b.exponent ∧ b.exponent ≤ 971 := by
  have unpacked := canonical x
  rw [value_eq] at h
  cases eq : x.toModel.unpack with
  | notANumber => rw [eq] at h; cases h
  | infinity s => rw [eq] at h; cases h
  | zero s =>
      rw [eq] at h
      cases h
      exact ⟨⟨Nat.two_pow_pos 53, Int.le_refl _, .inr rfl⟩, by simp⟩
  | finite s m e pos =>
      rw [eq] at h unpacked
      cases h
      cases unpacked with
      | finite placed most => exact ⟨placed, most⟩

theorem exponent_value {x : Float} {b : Binary} (h : value x = .finite b) :
    -1074 ≤ b.exponent :=
  (isPlaced_of_value h).1.least

theorem isLevel_iff {x : Float} {v : Int} : IsLevel x v ↔
    ∃ b, value x = .finite b ∧ signed b.negative (size b.mantissa b.exponent) = v := by
  have unpacked := canonical x
  have signs (s : Sign) (n : Nat) : signed (isNegative s) n = s.apply n := by
    cases s <;> rfl
  rw [value_eq, IsLevel, level]
  constructor
  · rintro ⟨hv, finite⟩
    cases eq : x.toModel.unpack with
    | notANumber => rw [eq] at hv; cases hv
    | infinity s =>
        rw [eq] at hv
        cases hv
        cases s <;> simp [Sign.apply] at finite
    | zero s =>
        rw [eq] at hv
        cases hv
        exact ⟨_, rfl, by cases s <;> simp [signs, size, Sign.apply]⟩
    | finite s m e pos =>
        rw [eq] at hv
        cases hv
        exact ⟨_, rfl, signs s _⟩
  · rintro ⟨b, hb, rfl⟩
    cases eq : x.toModel.unpack with
    | notANumber => rw [eq] at hb; cases hb
    | infinity s => rw [eq] at hb; cases hb
    | zero s =>
        rw [eq] at hb
        cases hb
        have positive := infinitySize_pos
        constructor
        · cases s <;> simp [signs, size, levelOf, Sign.apply]
        · cases s <;> simpa [signs, size, Sign.apply] using positive
    | finite s m e pos =>
        rw [eq] at hb unpacked
        cases hb
        cases unpacked with
        | finite placed most =>
            have less := size_lt_infinity placed most
            refine ⟨congrArg some (signs s _).symm, ?_⟩
            cases s <;> simpa [signs, Sign.apply] using less

def half : Nat := size 1 (-1)

theorem half_pos : 0 < half := size_pos Nat.one_pos (-1)

theorem size_halves (n : Nat) : size n (-1) = n * half := by
  rw [half, size, size, Nat.one_mul]

theorem size_whole (n : Nat) : size n 0 = 2 * n * half := by
  have shift := @size_shift 0 (-1) (by decide) (by decide) n
  have one : (0 - -1 : Int).toNat = 1 := rfl
  rw [shift, one, Nat.pow_one, size_halves, Nat.mul_comm n 2]

theorem fraction_size {b : Binary} (least : -1074 ≤ b.exponent) :
    0 < b.fraction.2 ∧ size b.fraction.1 0 = size b.mantissa b.exponent * b.fraction.2 := by
  unfold Binary.fraction scaled size
  simp only [Nat.pow_eq]
  split
  · next natural =>
      have sum : (b.exponent + 1074).toNat = b.exponent.toNat + (0 + 1074 : Int).toNat := by omega
      exact ⟨Nat.one_pos, by rw [sum, Nat.pow_add, Nat.mul_one, Nat.mul_assoc]⟩
  · next negative =>
      have sum : (0 + 1074 : Int).toNat = (b.exponent + 1074).toNat + (-b.exponent).toNat := by omega
      refine ⟨Nat.mul_pos Nat.one_pos (Nat.two_pow_pos _), ?_⟩
      rw [Nat.one_mul, Nat.mul_assoc, ← Nat.pow_add, ← sum]

theorem signed_eq_natCast {negative : Bool} {n m : Nat} :
    signed negative n = m ↔ n = m ∧ (negative = true → m = 0) := by
  cases negative <;> simp [signed]
  omega

/-- The number is the natural number `n`; a zero may have either sign. -/
def IsWhole (x : Float) (n : Nat) : Prop :=
  ∃ b, value x = .finite b ∧ b.isWhole = true ∧ signed b.negative b.wholePart = n

def IsHalves (x : Float) (n : Nat) : Prop := IsLevel x (n * half : Nat)

theorem isWhole_iff_size {b : Binary} (least : -1074 ≤ b.exponent) (n : Nat) :
    b.isWhole = true ∧ b.wholePart = n ↔ size b.mantissa b.exponent = size n 0 := by
  obtain ⟨pos, units⟩ := fraction_size least
  have ratio : size b.mantissa b.exponent = size n 0 ↔ b.fraction.1 = n * b.fraction.2 := by
    have unit : size n 0 * b.fraction.2 = size (n * b.fraction.2) 0 := Nat.mul_right_comm ..
    rw [← Nat.mul_left_inj (Nat.ne_of_gt pos), ← units, unit]
    exact Nat.mul_left_inj (Nat.ne_of_gt (Nat.two_pow_pos _))
  rw [ratio, Binary.isWhole, Binary.wholePart, beq_iff_eq]
  constructor
  · rintro ⟨whole, rfl⟩
    exact (Nat.div_mul_cancel (Nat.dvd_of_mod_eq_zero whole)).symm
  · intro eq
    rw [eq]
    exact ⟨Nat.mul_mod_left .., Nat.mul_div_cancel n pos⟩

theorem isHalves_iff_isWhole {x : Float} {n : Nat} : IsHalves x (2 * n) ↔ IsWhole x n := by
  have none : size n 0 = 0 ↔ n = 0 := by
    rw [size_whole]
    have := half_pos
    simp
    omega
  rw [IsHalves, isLevel_iff, ← size_whole]
  refine exists_congr fun b => and_congr_right fun hb => ?_
  have least := exponent_value hb
  rw [signed_eq_natCast, signed_eq_natCast, ← isWhole_iff_size least n, none]
  exact and_assoc

theorem floor_of_isWhole {x : Float} {n : Nat} (h : IsWhole x n) : floor x = .ok (n : Int) := by
  obtain ⟨b, hb, whole, part⟩ := h
  simp only [floor, finite, hb, bind, Except.bind, whole, Bool.not_true, Bool.and_false,
    Bool.false_eq_true, if_false, part]
  rfl

end Sidekick.Number
