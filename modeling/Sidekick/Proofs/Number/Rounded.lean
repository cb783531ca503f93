import Sidekick.Proofs.Number.Unpacked

/-!
# Rounded sums

A sum and a difference are rounded to a number next to the exact value. So values which numbers have
are not rounded, and adding what is not negative makes no number less.
-/

namespace Sidekick.Number
open Float.Model UnpackedFloat

/-! ## Shifted mantissas -/

theorem mantissa_shiftRight (m k : Nat) :
    ((⟨m, false, false⟩ : ExtendedMantissa) >>> k).mantissa = m / 2 ^ k ∧
      (m % 2 ^ k = 0 → ((⟨m, false, false⟩ : ExtendedMantissa) >>> k).roundBit = false ∧
        ((⟨m, false, false⟩ : ExtendedMantissa) >>> k).stickyBit = false) := by
  induction k with
  | zero => exact ⟨(Nat.div_one m).symm, fun _ => ⟨rfl, rfl⟩⟩
  | succ k ih =>
      obtain ⟨mantissa, bits⟩ := ih
      have step : (⟨m, false, false⟩ : ExtendedMantissa) >>> (k + 1) =
          ((⟨m, false, false⟩ : ExtendedMantissa) >>> k).shiftRightOne := rfl
      rw [step, ExtendedMantissa.shiftRightOne]
      refine ⟨?_, fun exact => ?_⟩
      · simp only [mantissa, Nat.div_div_eq_div_mul, Nat.pow_succ]
      · rw [Nat.pow_succ, Nat.mod_mul] at exact
        have even : m / 2 ^ k % 2 = 0 := by
          rcases Nat.mod_two_eq_zero_or_one (m / 2 ^ k) with even | odd
          · exact even
          · rw [odd] at exact
            have := Nat.two_pow_pos k
            omega
        obtain ⟨round, sticky⟩ := bits (by omega)
        simp [mantissa, even, round, sticky]

theorem roundedMantissa_bounds (em : ExtendedMantissa) :
    em.mantissa ≤ em.roundedMantissa ∧ em.roundedMantissa ≤ em.mantissa + 1 ∧
      (em.roundBit = false → em.stickyBit = false → em.roundedMantissa = em.mantissa) := by
  rcases em with ⟨m, _ | _, _ | _⟩ <;>
    simp [ExtendedMantissa.roundedMantissa, ExtendedMantissa.accuracy, Accuracy.roundToNearestEven]
  omega

/-- A mantissa without its last `k` places, rounded to a neighbour. -/
def shifted (m k : Nat) : Nat := ((⟨m, false, false⟩ : ExtendedMantissa) >>> k).roundedMantissa

theorem le_shifted {c m k : Nat} (h : c * 2 ^ k ≤ m) : c ≤ shifted m k := by
  obtain ⟨low, -, -⟩ := roundedMantissa_bounds ((⟨m, false, false⟩ : ExtendedMantissa) >>> k)
  rw [(mantissa_shiftRight m k).1] at low
  exact Nat.le_trans ((Nat.le_div_iff_mul_le (Nat.two_pow_pos k)).mpr h) low

theorem shifted_le {c m k : Nat} (h : m ≤ c * 2 ^ k) : shifted m k ≤ c := by
  obtain ⟨-, high, exact⟩ := roundedMantissa_bounds ((⟨m, false, false⟩ : ExtendedMantissa) >>> k)
  obtain ⟨mantissa, bits⟩ := mantissa_shiftRight m k
  rw [mantissa] at high exact
  unfold shifted
  by_cases whole : m % 2 ^ k = 0
  · rw [exact (bits whole).1 (bits whole).2]
    exact Nat.div_le_of_le_mul (Nat.mul_comm _ _ ▸ h)
  · have strict : m < c * 2 ^ k := by
      refine Nat.lt_of_le_of_ne h fun eq => whole ?_
      rw [eq, Nat.mul_mod_left]
    have below := (Nat.div_lt_iff_lt_mul (Nat.two_pow_pos k)).mpr strict
    omega

/-! ## Rounding -/

def place (m : Nat) (x : Int) : Int := max (m.log2 + x - 52) (-1074)

theorem targetExponent_eq (m : Nat) (x : Int) :
    Format.binary64.targetExponent (totalExponent m x) = place m x := by
  simp only [Format.targetExponent, totalExponent, Format.mantissaBits, Format.minExponent, place]
  omega

theorem shiftToTargetExponent_eq (m : Nat) (x : Int) :
    shiftToTargetExponent .binary64 m x .exact =
      ((⟨m, false, false⟩ : ExtendedMantissa) >>> (place m x - x).toNat,
        x + (place m x - x).toNat) := by
  rw [shiftToTargetExponent, targetExponent_eq]
  rfl

theorem shift_kept {r : Nat} {t : Int} (small : r < 2 ^ 53) (least : -1074 ≤ t) :
    shiftToTargetExponent .binary64 r t .exact = (⟨r, false, false⟩, t) := by
  have bits : r.log2 ≤ 52 := by
    by_cases zero : r = 0
    · simp [zero]
    · exact Nat.le_of_lt_succ ((Nat.log2_lt zero).mpr small)
  have still : (place r t - t).toNat = 0 := by
    unfold place
    omega
  rw [shiftToTargetExponent_eq, still]
  simp [HShiftRight.hShiftRight, Nat.repeat]

theorem shift_carried {t : Int} (least : -1074 ≤ t) :
    shiftToTargetExponent .binary64 (2 ^ 53) t .exact = (⟨2 ^ 52, false, false⟩, t + 1) := by
  have once : (place (2 ^ 53) t - t).toNat = 1 := by
    rw [place, Nat.log2_two_pow]
    omega
  rw [shiftToTargetExponent_eq, once]
  rfl

/-- A mantissa and its exponent after a carry into a new place. -/
def Carried (r : Nat) (t : Int) (q : Nat) (f : Int) : Prop :=
  r < 2 ^ 53 ∧ q = r ∧ f = t ∨ r = 2 ^ 53 ∧ q = 2 ^ 52 ∧ f = t + 1

theorem roundWithAccuracy_eq {m : Nat} {x t : Int} {em : ExtendedMantissa}
    (first : shiftToTargetExponent .binary64 m x .exact = (em, t))
    (le : em.roundedMantissa ≤ 2 ^ 53) (least : -1074 ≤ t) :
    ∃ q f, Carried em.roundedMantissa t q f ∧ ∀ s, roundWithAccuracy .binary64 s m x .exact =
      if h : q = 0 then .zero s else .finite s q f (Nat.pos_of_ne_zero h) := by
  rcases Nat.lt_or_eq_of_le le with small | carry
  · refine ⟨em.roundedMantissa, t, .inl ⟨small, rfl, rfl⟩, fun s => ?_⟩
    rw [roundWithAccuracy, first]
    simp only [shift_kept small least]
  · refine ⟨2 ^ 52, t + 1, .inr ⟨carry, rfl, rfl⟩, fun s => ?_⟩
    rw [roundWithAccuracy, first]
    simp only [carry, shift_carried least]

theorem log2_mul_two_pow {m : Nat} (pos : 0 < m) (k : Nat) : (m * 2 ^ k).log2 = m.log2 + k := by
  have ne : m * 2 ^ k ≠ 0 := Nat.ne_of_gt (Nat.mul_pos pos (Nat.two_pow_pos k))
  have low : m.log2 + k ≤ (m * 2 ^ k).log2 := by
    rw [Nat.le_log2 ne, Nat.pow_add]
    exact Nat.mul_le_mul_right _ (Nat.log2_self_le (Nat.ne_of_gt pos))
  have high : (m * 2 ^ k).log2 < m.log2 + 1 + k := by
    rw [Nat.log2_lt ne, Nat.pow_add]
    exact Nat.mul_lt_mul_of_pos_right Nat.lt_log2_self (Nat.two_pow_pos k)
  omega

/-- No placed magnitude lies between `v` units and `q · 2 ^ f`. -/
structure NextTo (v q : Nat) (f : Int) : Prop where
  placed : IsPlaced q f
  above : ∀ m e, IsPlaced m e → size m e ≤ v → size m e ≤ size q f
  below : ∀ m e, IsPlaced m e → v ≤ size m e → size q f ≤ size m e

theorem size_le_size {m n : Nat} (h : m ≤ n) (e : Int) : size m e ≤ size n e :=
  Nat.mul_le_mul_right _ h

theorem size_shift {e t : Int} (least : -1074 ≤ t) (le : t ≤ e) (m : Nat) :
    size m e = size (m * 2 ^ (e - t).toNat) t := by
  have places : (e + 1074).toNat = (e - t).toNat + (t + 1074).toNat := by omega
  rw [size, size, places, Nat.pow_add, Nat.mul_assoc]

theorem nextTo_of_carried {v r q : Nat} {t f : Int} (least : -1074 ≤ t)
    (low : ∀ c, size c t ≤ v → c ≤ r) (high : ∀ c, v ≤ size c t → r ≤ c)
    (small : v ≤ size (2 ^ 53) t) (full : t = -1074 ∨ size (2 ^ 52) t ≤ v)
    (carried : Carried r t q f) : NextTo v q f := by
  have full' : t = -1074 ∨ 2 ^ 52 ≤ r := full.imp_right (low _)
  have same : size q f = size r t := by
    rcases carried with ⟨-, rfl, rfl⟩ | ⟨rfl, rfl, rfl⟩
    · rfl
    · have one : (t + 1 - t).toNat = 1 := by omega
      have carry : 2 ^ 52 * 2 ^ 1 = 2 ^ 53 := by decide
      rw [size_shift least (by omega) (2 ^ 52), one, carry]
  have placed : IsPlaced q f := by
    rcases carried with ⟨less, rfl, rfl⟩ | ⟨-, rfl, rfl⟩
    · exact ⟨less, least, full'.symm⟩
    · exact ⟨by decide, by omega, .inl (Nat.le_refl _)⟩
  have lower {m : Nat} {e : Int} (hm : IsPlaced m e) (lt : e < t) :
      size m e < size (2 ^ 52) t ∧ size (2 ^ 52) t ≤ v := by
    have binary : IsPlaced (2 ^ 52) t := ⟨by decide, least, .inl (Nat.le_refl _)⟩
    exact ⟨size_lt_of_lt hm binary lt, full.resolve_left (by have := hm.least; omega)⟩
  refine ⟨placed, fun m e hm le => ?_, fun m e hm le => ?_⟩
  · rw [same]
    rcases Int.lt_or_le e t with lt | ge
    · obtain ⟨less, inside⟩ := lower hm lt
      exact Nat.le_of_lt (Nat.lt_of_lt_of_le less (size_le_size (low _ inside) t))
    · rw [size_shift least ge] at le ⊢
      exact size_le_size (low _ le) t
  · rw [same]
    rcases Int.lt_or_le e t with lt | ge
    · obtain ⟨less, inside⟩ := lower hm lt
      omega
    · rw [size_shift least ge] at le ⊢
      exact size_le_size (high _ le) t

theorem size_place {m : Nat} (pos : 0 < m) {x : Int} (least : -1074 ≤ x) :
    size m x ≤ size (2 ^ 53) (place m x) ∧
      (place m x = -1074 ∨ size (2 ^ 52) (place m x) ≤ size m x) := by
  have upper : m * 2 ^ (x + 1074).toNat < 2 ^ (m.log2 + 1 + (x + 1074).toNat) := by
    rw [Nat.pow_add]
    exact Nat.mul_lt_mul_of_pos_right Nat.lt_log2_self (Nat.two_pow_pos _)
  have lower : 2 ^ (m.log2 + (x + 1074).toNat) ≤ m * 2 ^ (x + 1074).toNat := by
    rw [Nat.pow_add]
    exact Nat.mul_le_mul_right _ (Nat.log2_self_le (Nat.ne_of_gt pos))
  constructor
  · refine Nat.le_of_lt (Nat.lt_of_lt_of_le upper ?_)
    rw [size, ← Nat.pow_add]
    refine Nat.pow_le_pow_right (by decide) ?_
    unfold place
    omega
  · rcases Int.lt_or_le (-1074) (m.log2 + x - 52) with above | below
    · right
      refine Nat.le_trans (Nat.le_of_eq ?_) lower
      rw [size, ← Nat.pow_add]
      congr 1
      unfold place
      omega
    · left
      unfold place
      omega

theorem round_nextTo {m : Nat} (pos : 0 < m) {x : Int} (least : -1074 ≤ x) :
    ∃ q f, NextTo (size m x) q f ∧ ∀ s, UnpackedFloat.round .binary64 s m x =
      if h : q = 0 then .zero s else .finite s q f (Nat.pos_of_ne_zero h) := by
  generalize hD : (x - place m x).toNat = D
  have pos' : 0 < m * 2 ^ D := Nat.mul_pos pos (Nat.two_pow_pos D)
  have same : place (m * 2 ^ D) (x - D) = place m x := by
    rw [place, place, log2_mul_two_pow pos]
    omega
  have placeLeast : -1074 ≤ place m x := by
    unfold place
    omega
  generalize hk : (place m x - x).toNat = k
  have first : shiftToTargetExponent .binary64 (m * 2 ^ D) (x - D) .exact =
      ((⟨m * 2 ^ D, false, false⟩ : ExtendedMantissa) >>> k, place m x) := by
    have shift : (place m x - (x - D)).toNat = k := by omega
    rw [shiftToTargetExponent_eq, same, shift]
    congr 1
    omega
  -- Of the two shifts one does nothing; beyond the lesser exponent both sides have the same factor.
  generalize ha : (min (place m x) x + 1074).toNat = a
  have places (c : Nat) : size c (place m x) = c * 2 ^ k * 2 ^ a := by
    have sum : (place m x + 1074).toNat = k + a := by omega
    rw [size, sum, Nat.pow_add, Nat.mul_assoc]
  have whole : size m x = m * 2 ^ D * 2 ^ a := by
    have sum : (x + 1074).toNat = D + a := by omega
    rw [size, sum, Nat.pow_add, Nat.mul_assoc]
  have low (c : Nat) (h : size c (place m x) ≤ size m x) : c * 2 ^ k ≤ m * 2 ^ D := by
    rw [places, whole] at h
    exact Nat.le_of_mul_le_mul_right h (Nat.two_pow_pos a)
  have high (c : Nat) (h : size m x ≤ size c (place m x)) : m * 2 ^ D ≤ c * 2 ^ k := by
    rw [places, whole] at h
    exact Nat.le_of_mul_le_mul_right h (Nat.two_pow_pos a)
  obtain ⟨small, full⟩ := size_place pos least
  have le : shifted (m * 2 ^ D) k ≤ 2 ^ 53 := shifted_le (high _ small)
  obtain ⟨q, f, carried, rounded⟩ := roundWithAccuracy_eq first le placeLeast
  refine ⟨q, f, nextTo_of_carried placeLeast (fun c h => le_shifted (low c h))
    (fun c h => shifted_le (high c h)) small full carried, fun s => ?_⟩
  rw [← rounded, UnpackedFloat.round, targetExponent_eq, decreaseExponent, hD, Nat.shiftLeft_eq]

/-! ## Rounded values -/

def repacked (u : UnpackedFloat) : UnpackedFloat :=
  unpack .binary64 (UnpackedFloat.pack .binary64 u)

def Rounds (v : Int) (u : UnpackedFloat) : Prop :=
  ∃ l, levelOf u = some l ∧ ∀ f w, Canonical f → levelOf f = some w →
    (w ≤ v → w ≤ l) ∧ (v ≤ w → l ≤ w)

theorem repacked_large {s : Sign} {m : Nat} {e : Int} {pos : 0 < m} (large : 971 < e) :
    repacked (.finite s m e pos) = .infinity s := by
  have packed : UnpackedFloat.pack .binary64 (.finite s m e pos) =
      packedInfinity .binary64 s := by
    have beyond : 2 ^ 11 ≤ (e + (Format.binary64.exponentBias : Int) +
        (Format.binary64.mantissaBitsWithoutImplicit : Int)).toNat + 1 := by
      simp only [Format.exponentBias]
      omega
    rw [UnpackedFloat.pack]
    simp only [if_pos beyond]
  rw [repacked, packed]
  cases s <;> rfl

theorem rounds_of_nextTo {v q : Nat} {f : Int} (next : NextTo v q f) {s : Sign}
    {u : UnpackedFloat} {l : Nat} (level : levelOf u = some (s.apply l))
    (same : l = size q f ∨ l = infinitySize ∧ infinitySize ≤ size q f) :
    Rounds (s.apply v) u := by
  refine ⟨s.apply l, level, fun g w hg hw => ?_⟩
  obtain ⟨t, m, e, placed, le, rfl⟩ := hg.exists_placed hw
  have above := next.above m e placed
  have below := next.below m e placed
  constructor <;> intro h <;> cases s <;> cases t <;> simp only [Sign.apply] at h ⊢ <;> omega

theorem infinitySize_le {q : Nat} {f : Int} (placed : IsPlaced q f) (large : 971 < f) :
    infinitySize ≤ size q f := by
  have full : 2 ^ 52 ≤ q := placed.full.resolve_right (by omega)
  have more : q ≤ q * 2 ^ (f - 972).toNat := Nat.le_mul_of_pos_right q (Nat.two_pow_pos _)
  rw [infinitySize_eq, @size_shift f 972 (by decide) (by omega)]
  exact size_le_size (Nat.le_trans full more) 972

theorem rounds_round {m : Nat} (pos : 0 < m) {x : Int} (least : -1074 ≤ x) (s : Sign) :
    Rounds (s.apply (size m x)) (repacked (UnpackedFloat.round .binary64 s m x)) := by
  obtain ⟨q, f, next, rounded⟩ := round_nextTo pos least
  rw [rounded]
  split
  · next zero =>
      have level : levelOf (repacked (.zero s)) = some (s.apply (0 : Nat)) := by
        rw [repacked, unpack_pack (.zero s)]
        cases s <;> rfl
      exact rounds_of_nextTo next level (.inl (by simp [zero, size]))
  · next nonzero =>
      rcases Int.lt_or_le 971 f with large | most
      · rw [repacked_large large]
        exact rounds_of_nextTo next rfl (.inr ⟨rfl, infinitySize_le next.placed large⟩)
      · rw [repacked, unpack_pack (.finite next.placed most)]
        exact rounds_of_nextTo next rfl (.inl rfl)

theorem rounds_self {u : UnpackedFloat} (h : Canonical u) {v : Int} (level : levelOf u = some v) :
    Rounds v (repacked u) := by
  rw [repacked, unpack_pack h]
  exact ⟨v, level, fun _ _ _ _ => ⟨id, id⟩⟩

theorem apply_size (s : Sign) (m : Nat) (e : Int) :
    s.apply (size m e) = s.apply m * 2 ^ (e + 1074).toNat := by
  cases s <;> simp [Sign.apply, size]

theorem rounds_normalize {m x : Int} (least : -1074 ≤ x) (s : Sign) :
    Rounds (m * 2 ^ (x + 1074).toNat) (repacked (UnpackedFloat.normalize .binary64 m x s)) := by
  rw [UnpackedFloat.normalize]
  rcases Int.lt_trichotomy m 0 with lt | rfl | gt
  · rw [Int.compare_eq_lt.mpr lt]
    have magnitude : Sign.apply .negative (-m).toNat = m := by
      rw [Sign.apply, Int.toNat_of_nonneg (by omega), Int.neg_neg]
    have rounded := rounds_round (m := (-m).toNat) (by omega) least .negative
    rwa [apply_size, magnitude] at rounded
  · rw [Int.compare_eq_eq.mpr rfl, Int.zero_mul]
    exact rounds_self (.zero s) rfl
  · rw [Int.compare_eq_gt.mpr gt]
    have magnitude : Sign.apply .positive m.toNat = m := Int.toNat_of_nonneg (by omega)
    have rounded := rounds_round (m := m.toNat) (by omega) least .positive
    rwa [apply_size, magnitude] at rounded

theorem rounds_add {a b : UnpackedFloat} (ha : Canonical a) (hb : Canonical b) {v w : Int}
    (hv : levelOf a = some v) (hw : levelOf b = some w) (fa : ∀ s, a ≠ .infinity s)
    (fb : ∀ s, b ≠ .infinity s) : Rounds (v + w) (repacked (UnpackedFloat.add .binary64 a b)) := by
  cases ha with
  | nan => cases hv
  | infinity s => exact absurd rfl (fa s)
  | zero s =>
      cases hv
      rw [Int.zero_add]
      cases hb with
      | nan => cases hw
      | infinity t => exact absurd rfl (fb t)
      | zero t =>
          cases hw
          cases s <;> cases t <;> exact rounds_self (.zero _) rfl
      | finite placed most => exact rounds_self (.finite placed most) hw
  | @finite s m e pos hm most =>
      cases hb with
      | nan => cases hw
      | infinity t => exact absurd rfl (fb t)
      | zero t =>
          cases hw
          rw [Int.add_zero]
          exact rounds_self (.finite hm most) hv
      | @finite t n f pos' hn most' =>
          cases hv
          cases hw
          have least : -1074 ≤ min e f := by
            have := hm.least
            have := hn.least
            omega
          rw [size_shift least (Int.min_le_left e f), size_shift least (Int.min_le_right e f),
            apply_size, apply_size, ← Int.add_mul, ← Nat.shiftLeft_eq, ← Nat.shiftLeft_eq]
          exact rounds_normalize least .positive

/-! ## Differences -/

theorem apply_neg (s : Sign) (n : Int) : (-s).apply n = -s.apply n := by
  cases s with
  | positive => rfl
  | negative => exact (Int.neg_neg n).symm

theorem sub_eq (a b : UnpackedFloat) :
    UnpackedFloat.sub .binary64 a b = UnpackedFloat.add .binary64 a b.neg := by
  cases a <;> cases b <;>
    simp [UnpackedFloat.sub, UnpackedFloat.add, UnpackedFloat.neg, apply_neg, Int.sub_eq_add_neg]

theorem Canonical.neg {u : UnpackedFloat} (h : Canonical u) : Canonical u.neg := by
  cases h with
  | nan => exact .nan
  | infinity s => exact .infinity _
  | zero s => exact .zero _
  | finite placed most => exact .finite placed most

theorem levelOf_neg {u : UnpackedFloat} {v : Int} (h : levelOf u = some v) :
    levelOf u.neg = some (-v) := by
  cases u with
  | notANumber => cases h
  | zero s => cases h; rfl
  | infinity s =>
      cases h
      exact congrArg some (apply_neg s _)
  | finite s m e pos =>
      cases h
      exact congrArg some (apply_neg s _)

theorem rounds_sub {a b : UnpackedFloat} (ha : Canonical a) (hb : Canonical b) {v w : Int}
    (hv : levelOf a = some v) (hw : levelOf b = some w) (fa : ∀ s, a ≠ .infinity s)
    (fb : ∀ s, b ≠ .infinity s) : Rounds (v - w) (repacked (UnpackedFloat.sub .binary64 a b)) := by
  rw [sub_eq, Int.sub_eq_add_neg]
  apply rounds_add ha hb.neg hv (levelOf_neg hw) fa
  intro s eq
  cases b with
  | infinity t => exact fb t rfl
  | _ => cases eq

/-! ## Numbers -/

def level (x : Float) : Option Int := levelOf x.toModel.unpack

def IsLevel (x : Float) (v : Int) : Prop := level x = some v ∧ v.natAbs < infinitySize

theorem canonical (x : Float) : Canonical x.toModel.unpack := canonical_unpack _

theorem float_le_iff {x y : Float} :
    x ≤ y ↔ ∃ v w, level x = some v ∧ level y = some w ∧ v ≤ w := by
  have model : x ≤ y ↔ x.toModel.unpack.le y.toModel.unpack = true :=
    decide_eq_true_iff.trans Iff.rfl
  rw [model]
  constructor
  · intro h
    obtain ⟨v, w, hv, hw⟩ := exists_level_of_le h
    exact ⟨v, w, hv, hw, (le_iff_level_le (canonical x) (canonical y) hv hw).mp h⟩
  · rintro ⟨v, w, hv, hw, le⟩
    exact (le_iff_level_le (canonical x) (canonical y) hv hw).mpr le

theorem float_le_trans {x y z : Float} (h : x ≤ y) (h' : y ≤ z) : x ≤ z := by
  obtain ⟨u, v, hu, hv, le⟩ := float_le_iff.mp h
  obtain ⟨v', w, hv', hw, le'⟩ := float_le_iff.mp h'
  obtain rfl : v = v' := Option.some.inj (hv.symm.trans hv')
  exact float_le_iff.mpr ⟨u, w, hu, hw, Int.le_trans le le'⟩

theorem IsLevel.ne_infinity {x : Float} {v : Int} (h : IsLevel x v) (s : Sign) :
    x.toModel.unpack ≠ .infinity s := by
  intro eq
  obtain ⟨hv, less⟩ := h
  rw [level, eq, levelOf, Option.some.injEq] at hv
  subst hv
  cases s <;> simp [Sign.apply] at less

theorem IsLevel.rounds_add {x y : Float} {v w : Int} (hx : IsLevel x v) (hy : IsLevel y w) :
    Rounds (v + w) (x + y).toModel.unpack :=
  Number.rounds_add (canonical x) (canonical y) hx.1 hy.1 hx.ne_infinity hy.ne_infinity

theorem IsLevel.rounds_sub {x y : Float} {v w : Int} (hx : IsLevel x v) (hy : IsLevel y w) :
    Rounds (v - w) (x - y).toModel.unpack :=
  Number.rounds_sub (canonical x) (canonical y) hx.1 hy.1 hx.ne_infinity hy.ne_infinity

theorem IsLevel.of_rounds {x z : Float} {v : Int} (hz : IsLevel z v)
    (rounds : Rounds v x.toModel.unpack) : IsLevel x v := by
  obtain ⟨l, hl, bounds⟩ := rounds
  obtain ⟨below, above⟩ := bounds _ v (canonical z) hz.1
  obtain rfl : l = v := Int.le_antisymm (above (Int.le_refl v)) (below (Int.le_refl v))
  exact ⟨hl, hz.2⟩

theorem add_infinity {x y : Float} {s : Sign} {w : Int} (hx : x.toModel.unpack = .infinity s)
    (hy : IsLevel y w) : (x + y).toModel.unpack = .infinity s := by
  have sum : (x + y).toModel.unpack =
      repacked (UnpackedFloat.add .binary64 x.toModel.unpack y.toModel.unpack) := rfl
  have infinite : repacked (.infinity s) = .infinity s := unpack_pack (.infinity s)
  have finite := hy.ne_infinity
  have number := hy.1
  rw [sum, hx]
  rw [level] at number
  cases unpacked : y.toModel.unpack with
  | notANumber => rw [unpacked] at number; cases number
  | infinity t => exact absurd unpacked (finite t)
  | zero t => exact infinite
  | finite t m e pos => exact infinite

theorem float_le_add {x y : Float} {v w : Int} (hx : level x = some v) (hy : IsLevel y w)
    (natural : 0 ≤ w) : x ≤ x + y := by
  by_cases infinite : ∃ s, x.toModel.unpack = .infinity s
  · obtain ⟨s, infinite⟩ := infinite
    have same : level (x + y) = some v := by
      rw [level, add_infinity infinite hy, ← infinite]
      exact hx
    exact float_le_iff.mpr ⟨v, v, hx, same, Int.le_refl v⟩
  · have finite : ∀ s, x.toModel.unpack ≠ .infinity s := fun s eq => infinite ⟨s, eq⟩
    have rounds : Rounds (v + w) (x + y).toModel.unpack :=
      rounds_add (canonical x) (canonical y) hx hy.1 finite hy.ne_infinity
    obtain ⟨l, hl, bounds⟩ := rounds
    exact float_le_iff.mpr ⟨v, l, hx, hl, (bounds _ v (canonical x) hx).1 (by omega)⟩

end Sidekick.Number
