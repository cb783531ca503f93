import Mathlib
import Sidekick.Number.Binary

namespace Sidekick.Number
open Float.Model UnpackedFloat

/-- A mantissa has 53 bits, or fewer with the least exponent. -/
structure IsPlaced (m : Nat) (e : Int) : Prop where
  small : m < 2 ^ 53
  least : -1074 ≤ e
  full : 2 ^ 52 ≤ m ∨ e = -1074

inductive Canonical : UnpackedFloat → Prop
  | nan : Canonical .notANumber
  | infinity (s : Sign) : Canonical (.infinity s)
  | zero (s : Sign) : Canonical (.zero s)
  | finite {s : Sign} {m : Nat} {e : Int} {pos : 0 < m} :
      IsPlaced m e → e ≤ 971 → Canonical (.finite s m e pos)

theorem toNat_hidden {n : Nat} (fraction : BitVec n) :
    (1#1 ++ fraction).toNat = 2 ^ n + fraction.toNat := by
  have bits : (1#1 ++ fraction).toNat = 1 <<< n ||| fraction.toNat := BitVec.toNat_append ..
  rw [bits, ← Nat.shiftLeft_add_eq_or_of_lt fraction.isLt, Nat.one_shiftLeft]

theorem canonical_unpack (b : BitVec Format.binary64.numBits) :
    Canonical (unpack .binary64 b) := by
  have field := (unpackExponent b).isLt
  have fraction := (unpackMantissa b).isLt
  have whole := toNat_hidden (unpackMantissa b)
  simp only [Format.binary64] at field fraction whole
  rw [UnpackedFloat.unpack]
  split
  · split
    · exact .infinity _
    · exact .nan
  · next finite =>
      split
      · next least =>
          split
          · exact .zero _
          · have none : (unpackExponent b).toNat = 0 := by rw [least]; rfl
            refine .finite ⟨by omega, ?_, .inr ?_⟩ ?_ <;>
              simp [none, Format.exponentBias]
      · next hidden =>
          have low : (unpackExponent b).toNat ≠ 0 := fun eq =>
            hidden (BitVec.toNat_inj.mp (by simpa using eq))
          have high : (unpackExponent b).toNat ≠ 2047 := fun eq =>
            finite (BitVec.toNat_inj.mp (by simpa using eq))
          refine .finite ⟨by omega, ?_, .inl (by omega)⟩ ?_ <;>
            simp only [Format.exponentBias] <;> omega

/-! ## Packing -/

theorem log2_eq {m : Nat} (small : m < 2 ^ 53) (full : 2 ^ 52 ≤ m) : m.log2 = 52 := by
  have ne : m ≠ 0 := by omega
  have low := (Nat.le_log2 ne).mpr full
  have high := (Nat.log2_lt ne).mpr small
  omega

theorem unpack_pack_full {s : Sign} {m : Nat} {e : Int} (pos : 0 < m) (small : m < 2 ^ 53)
    (full : 2 ^ 52 ≤ m) (least : -1074 ≤ e) (most : e ≤ 971) :
    unpack .binary64 (UnpackedFloat.pack .binary64 (.finite s m e pos)) = .finite s m e pos := by
  have field : (e + (Format.binary64.exponentBias : Int) +
      (Format.binary64.mantissaBitsWithoutImplicit : Int)).toNat = (e + 1075).toNat := by
    simp only [Format.exponentBias]
    omega
  have packed : UnpackedFloat.pack .binary64 (.finite s m e pos) =
      packComponents .binary64 s (.ofNat 11 (e + 1075).toNat) (.ofNat 52 m) := by
    simp only [UnpackedFloat.pack, field, log2_eq small full]
    rw [if_neg (by omega), if_pos (by decide)]
  have inside : (BitVec.ofNat 11 (e + 1075).toNat).toNat = (e + 1075).toNat := by
    rw [BitVec.toNat_ofNat]
    omega
  have notLargest : BitVec.ofNat 11 (e + 1075).toNat ≠ -1#11 := fun eq => by
    have same := congrArg BitVec.toNat eq
    rw [inside] at same
    simp at same
    omega
  have notLeast : BitVec.ofNat 11 (e + 1075).toNat ≠ 0#11 := fun eq => by
    have same := congrArg BitVec.toNat eq
    rw [inside] at same
    simp at same
    omega
  have mantissa : (1#1 ++ BitVec.ofNat 52 m).toNat = m := by
    rw [toNat_hidden, BitVec.toNat_ofNat]
    omega
  rw [packed, UnpackedFloat.unpack]
  simp only [unpackMantissa_packComponents, unpackExponent_packComponents,
    unpackSign_packComponents, Sign.ofBitVec_toBitVec, if_neg notLargest, if_neg notLeast,
    mantissa, inside]
  congr 1
  simp only [Format.exponentBias]
  omega

theorem unpack_pack_least {s : Sign} {m : Nat} (pos : 0 < m) (small : m < 2 ^ 52) :
    unpack .binary64 (UnpackedFloat.pack .binary64 (.finite s m (-1074) pos)) =
      .finite s m (-1074) pos := by
  have short : m.log2 < 52 := (Nat.log2_lt (by omega)).mpr small
  have packed : UnpackedFloat.pack .binary64 (.finite s m (-1074) pos) =
      packComponents .binary64 s 0#11 (.ofNat 52 m) := by
    simp only [UnpackedFloat.pack]
    rw [if_neg (by decide), if_neg (by simp only [Format.mantissaBits]; omega)]
  have mantissa : (BitVec.ofNat 52 m).toNat = m := by
    rw [BitVec.toNat_ofNat]
    omega
  have nonzero : BitVec.ofNat 52 m ≠ 0#52 := fun eq => by
    have same := congrArg BitVec.toNat eq
    rw [mantissa] at same
    simp at same
    omega
  rw [packed, UnpackedFloat.unpack]
  simp only [unpackMantissa_packComponents, unpackExponent_packComponents,
    unpackSign_packComponents, Sign.ofBitVec_toBitVec, mantissa]
  rw [if_neg (by decide), if_pos trivial, dif_neg nonzero]
  rfl

theorem unpack_pack {u : UnpackedFloat} (h : Canonical u) :
    unpack .binary64 (UnpackedFloat.pack .binary64 u) = u := by
  cases h with
  | nan => rfl
  | infinity s => cases s <;> rfl
  | zero s => cases s <;> rfl
  | @finite s m e pos placed most =>
      by_cases full : 2 ^ 52 ≤ m
      · exact unpack_pack_full pos placed.small full placed.least most
      · obtain rfl := placed.full.resolve_left full
        exact unpack_pack_least pos (Nat.lt_of_not_le full)

/-! ## Values -/

/-- A magnitude, counted in units of the smallest positive number. -/
def size (m : Nat) (e : Int) : Nat := m * 2 ^ (e + 1074).toNat

@[irreducible] def infinitySize : Nat := size (2 ^ 52) 972

theorem infinitySize_eq : infinitySize = size (2 ^ 52) 972 := by
  delta infinitySize
  with_reducible rfl

def levelOf : UnpackedFloat → Option Int
  | .notANumber => none
  | .infinity s => some (s.apply infinitySize)
  | .zero _ => some 0
  | .finite s m e _ => some (s.apply (size m e))

theorem size_pos {m : Nat} (pos : 0 < m) (e : Int) : 0 < size m e :=
  Nat.mul_pos pos (Nat.two_pow_pos _)

theorem size_lt_of_lt {m n : Nat} {e f : Int} (hm : IsPlaced m e) (hn : IsPlaced n f)
    (lt : e < f) : size m e < size n f := by
  have full : 2 ^ 52 ≤ n := hn.full.resolve_right (by have := hm.least; omega)
  have higher : (e + 1074).toNat + 1 ≤ (f + 1074).toNat := by
    have := hm.least
    omega
  calc m * 2 ^ (e + 1074).toNat
    _ < 2 ^ 53 * 2 ^ (e + 1074).toNat :=
      Nat.mul_lt_mul_of_pos_right hm.small (Nat.two_pow_pos _)
    _ = 2 ^ 52 * 2 ^ ((e + 1074).toNat + 1) := by rw [Nat.pow_succ]; omega
    _ ≤ n * 2 ^ (f + 1074).toNat := Nat.mul_le_mul full (Nat.pow_le_pow_right (by decide) higher)

theorem compare_size {m n : Nat} {e f : Int} (hm : IsPlaced m e) (hn : IsPlaced n f) :
    (compare e f).then (compare m n) = compare (size m e) (size n f) := by
  rcases Int.lt_trichotomy e f with lt | rfl | gt
  · rw [Int.compare_eq_lt.mpr lt, Nat.compare_eq_lt.mpr (size_lt_of_lt hm hn lt)]
    rfl
  · rw [Int.compare_eq_eq.mpr rfl, Ordering.eq_then]
    have scaled {k l : Nat} (lt : k < l) : size k e < size l e :=
      Nat.mul_lt_mul_of_pos_right lt (Nat.two_pow_pos _)
    rcases Nat.lt_trichotomy m n with lt | rfl | gt
    · rw [Nat.compare_eq_lt.mpr lt, Nat.compare_eq_lt.mpr (scaled lt)]
    · rw [Nat.compare_eq_eq.mpr rfl, Nat.compare_eq_eq.mpr rfl]
    · rw [Nat.compare_eq_gt.mpr gt, Nat.compare_eq_gt.mpr (scaled gt)]
  · rw [Int.compare_eq_gt.mpr gt, Nat.compare_eq_gt.mpr (size_lt_of_lt hn hm gt)]
    rfl

theorem size_lt_infinity {m : Nat} {e : Int} (h : IsPlaced m e) (most : e ≤ 971) :
    size m e < infinitySize := by
  rw [infinitySize_eq]
  exact size_lt_of_lt h ⟨by decide, by decide, .inl (Nat.le_refl _)⟩ (by omega)

theorem infinitySize_pos : 0 < infinitySize := by
  rw [infinitySize_eq]
  exact size_pos (by decide) 972

theorem le_iff_level_le {a b : UnpackedFloat} (ha : Canonical a) (hb : Canonical b) {v w : Int}
    (hv : levelOf a = some v) (hw : levelOf b = some w) : a.le b = true ↔ v ≤ w := by
  have infinite := infinitySize_pos
  cases ha with
  | nan => cases hv
  | infinity s =>
      cases hv
      cases hb with
      | nan => cases hw
      | infinity t =>
          cases hw
          have signs : (compare s t).isLE = true ↔ s.apply 1 ≤ t.apply 1 := by
            cases s <;> cases t <;> decide
          rw [UnpackedFloat.le, UnpackedFloat.compare, Option.any_some, signs]
          cases s <;> cases t <;> simp [Sign.apply]
          omega
      | zero t =>
          cases hw
          cases s <;> simp [UnpackedFloat.le, UnpackedFloat.compare, Sign.apply]
          omega
      | @finite t n f pos hn most =>
          cases hw
          have less := size_lt_infinity hn most
          cases s <;> cases t <;>
            simp [UnpackedFloat.le, UnpackedFloat.compare, Sign.apply] <;> omega
  | zero s =>
      cases hv
      cases hb with
      | nan => cases hw
      | infinity t =>
          cases hw
          cases t <;> simp [UnpackedFloat.le, UnpackedFloat.compare, Sign.apply]
          omega
      | zero =>
          cases hw
          simp [UnpackedFloat.le, UnpackedFloat.compare]
      | @finite t m e pos placed =>
          cases hw
          have positive := size_pos pos e
          cases t <;> simp [UnpackedFloat.le, UnpackedFloat.compare, Sign.apply]
          omega
  | @finite s m e pos hm most =>
      cases hv
      have positive := size_pos pos e
      have less := size_lt_infinity hm most
      cases hb with
      | nan => cases hw
      | infinity t =>
          cases hw
          cases s <;> cases t <;>
            simp [UnpackedFloat.le, UnpackedFloat.compare, Sign.apply] <;> omega
      | zero =>
          cases hw
          cases s <;> simp [UnpackedFloat.le, UnpackedFloat.compare, Sign.apply]
          omega
      | @finite t n f pos' hn =>
          cases hw
          have positive' := size_pos pos' f
          have sizes := compare_size hm hn
          cases s <;> cases t <;>
            simp [UnpackedFloat.le, UnpackedFloat.compare, Sign.apply, sizes, Nat.isLE_compare,
              Nat.isGE_compare]
          omega

theorem exists_level_of_le {a b : UnpackedFloat} (h : a.le b = true) :
    ∃ v w, levelOf a = some v ∧ levelOf b = some w := by
  cases a with
  | notANumber => simp [UnpackedFloat.le, UnpackedFloat.compare] at h
  | _ =>
      cases b with
      | notANumber => simp [UnpackedFloat.le, UnpackedFloat.compare] at h
      | _ => exact ⟨_, _, rfl, rfl⟩

theorem Canonical.exists_placed {u : UnpackedFloat} (h : Canonical u) {v : Int}
    (hv : levelOf u = some v) :
    ∃ s m e, IsPlaced m e ∧ size m e ≤ infinitySize ∧ v = Sign.apply s (size m e) := by
  cases h with
  | nan => cases hv
  | infinity s =>
      cases hv
      rw [infinitySize_eq]
      exact ⟨s, 2 ^ 52, 972, ⟨by decide, by decide, .inl (Nat.le_refl _)⟩, Nat.le_refl _, rfl⟩
  | zero s =>
      cases hv
      exact ⟨s, 0, -1074, ⟨by decide, by decide, .inr rfl⟩, by simp [size], by
        cases s <;> simp [size, Sign.apply]⟩
  | @finite s m e pos placed most =>
      cases hv
      exact ⟨s, m, e, placed, Nat.le_of_lt (size_lt_infinity placed most), rfl⟩

end Sidekick.Number
