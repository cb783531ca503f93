import Sidekick.Proofs.Number.Halves

namespace Sidekick.Number
open Float.Model UnpackedFloat

def halfPlace : Nat := 970

def overflow : Nat := (2 ^ 54 - 1) * 2 ^ halfPlace

theorem overflow_pos : 0 < overflow := Nat.mul_pos (by decide) (Nat.two_pow_pos halfPlace)

/-- The quotient `n / d` is at least `c * 2 ^ e`. -/
def Reaches (c n d : Nat) (e : Int) : Prop := c * (scaled 2 n d (-e)).2 ≤ (scaled 2 n d (-e)).1

variable {c n d : Nat} {e f : Int}

theorem reaches_iff {a b : Nat} (h : e = a - b) : Reaches c n d e ↔ c * d * 2 ^ a ≤ n * 2 ^ b := by
  unfold Reaches scaled
  split
  · next small =>
      obtain ⟨k, rfl⟩ := Nat.exists_eq_add_of_le (show a ≤ b by omega)
      have power : (-e).toNat = k := by omega
      rw [power, Nat.pow_eq, Nat.add_comm, Nat.pow_add, ← Nat.mul_assoc,
        Nat.mul_le_mul_right_iff (Nat.two_pow_pos a)]
  · next large =>
      obtain ⟨k, rfl⟩ := Nat.exists_eq_add_of_le (show b ≤ a by omega)
      have power : (- -e).toNat = k := by omega
      rw [power, Nat.pow_eq, Nat.add_comm, Nat.pow_add, ← Nat.mul_assoc (c * d),
        Nat.mul_le_mul_right_iff (Nat.two_pow_pos b), Nat.mul_assoc]

theorem reaches_shift {k : Nat} : Reaches (2 ^ k) n d e ↔ Reaches 1 n d (e + k) := by
  rw [reaches_iff (a := e.toNat) (b := (-e).toNat) (by omega),
    reaches_iff (a := e.toNat + k) (b := (-e).toNat) (by omega), Nat.pow_add, Nat.one_mul,
    Nat.mul_comm (2 ^ k) d, Nat.mul_assoc, Nat.mul_comm (2 ^ k)]

theorem Reaches.mono (h : Reaches c n d f) (le : e ≤ f) : Reaches c n d e := by
  rw [reaches_iff (a := (f + e.natAbs + f.natAbs).toNat) (b := e.natAbs + f.natAbs)
    (by omega)] at h
  rw [reaches_iff (a := (e + e.natAbs + f.natAbs).toNat) (b := e.natAbs + f.natAbs) (by omega)]
  refine Nat.le_trans (Nat.mul_le_mul_left _ ?_) h
  exact Nat.pow_le_pow_right (by decide) (by omega)

theorem log2Quotient_reaches (hn : 0 < n) (hd : 0 < d) :
    Reaches 1 n d (log2Quotient n d) ∧ ¬ Reaches 1 n d (log2Quotient n d + 1) := by
  have nLow := Nat.log2_self_le (Nat.ne_of_gt hn)
  have dLow := Nat.log2_self_le (Nat.ne_of_gt hd)
  have nHigh := @Nat.lt_log2_self n
  have dHigh := @Nat.lt_log2_self d
  have above : ¬ Reaches 1 n d ((n.log2 : Int) - d.log2 + 1) := by
    rw [reaches_iff (a := n.log2 + 1) (b := d.log2) (by omega), Nat.one_mul, Nat.not_le,
      Nat.mul_comm d]
    exact Nat.mul_lt_mul_of_lt_of_le nHigh dLow hd
  have below : Reaches 1 n d ((n.log2 : Int) - d.log2 - 1) := by
    rw [reaches_iff (a := n.log2) (b := d.log2 + 1) (by omega), Nat.one_mul, Nat.mul_comm d]
    exact Nat.mul_le_mul nLow (Nat.le_of_lt dHigh)
  unfold log2Quotient
  dsimp only
  split
  · next reaches =>
      refine ⟨?_, above⟩
      rwa [Reaches, Nat.one_mul]
  · next short =>
      refine ⟨below, ?_⟩
      rwa [Int.sub_add_cancel, Reaches, Nat.one_mul]

theorem le_divNearest {x y : Nat} (hy : 0 < y) (h : c * y ≤ x) : c ≤ divNearest x y := by
  have whole : c ≤ x / y := (Nat.le_div_iff_mul_le hy).mpr h
  rcases divNearest_cases x y with ⟨eq, -⟩ | ⟨eq, -⟩ <;> omega

theorem divNearest_le {x y : Nat} (hy : 0 < y) (h : x < c * y) : divNearest x y ≤ c := by
  have whole : x / y < c := (Nat.div_lt_iff_lt_mul hy).mpr h
  rcases divNearest_cases x y with ⟨eq, -⟩ | ⟨eq, -⟩ <;> omega

-- Half of the way, an odd number is left for the next one.
theorem lt_divNearest_iff {q x y : Nat} (odd : q % 2 = 1) (hy : 0 < y) :
    q < divNearest x y ↔ (2 * q + 1) * y ≤ 2 * x := by
  have within := divNearest_within_half (n := x) hy
  constructor
  · intro less
    have more : (2 * (q + 1)) * y ≤ 2 * (divNearest x y * y) := by
      rw [Nat.mul_assoc]
      exact Nat.mul_le_mul_left 2 (Nat.mul_le_mul_right y less)
    rw [Nat.mul_add, Nat.add_mul] at more
    rw [Nat.add_mul]
    omega
  · intro half
    by_cases less : q < divNearest x y
    · exact less
    · have fewer : 2 * (divNearest x y * y) ≤ 2 * q * y := by
        rw [Nat.mul_assoc]
        exact Nat.mul_le_mul_left 2 (Nat.mul_le_mul_right y (Nat.le_of_not_lt less))
      rw [Nat.add_mul] at half
      have equal : divNearest x y * y = q * y := by
        rw [Nat.mul_assoc] at half fewer
        omega
      have even := divNearest_even_of_half (n := x) hy (by omega)
      rw [Nat.eq_of_mul_eq_mul_right hy equal] at even
      omega

theorem scaled_pos {base : Nat} (hb : 0 < base) (hd : 0 < d) : 0 < (scaled base n d e).2 := by
  unfold scaled
  split
  · exact hd
  · exact Nat.mul_pos hd (Nat.pow_pos hb)

theorem countNearest_bounds (hn : 0 < n) (hd : 0 < d) :
    2 ^ 52 ≤ countNearest n d (log2Quotient n d - 52) ∧
      countNearest n d (log2Quotient n d - 52) ≤ 2 ^ 53 := by
  obtain ⟨reaches, short⟩ := log2Quotient_reaches hn hd
  have low : Reaches (2 ^ 52) n d (log2Quotient n d - 52) := by
    rw [reaches_shift]
    exact reaches.mono (by omega)
  have high : ¬ Reaches (2 ^ 53) n d (log2Quotient n d - 52) := by
    rw [reaches_shift]
    exact fun more => short (more.mono (by omega))
  have positive := scaled_pos (n := n) (e := -(log2Quotient n d - 52)) Nat.two_pos hd
  exact ⟨le_divNearest positive low, divNearest_le positive (Nat.lt_of_not_le high)⟩

theorem value_ofWord (negative : Bool) {word : Nat} (small : word < infinityWord) :
    value (ofWord negative word) = .finite
      (if word / 2 ^ 52 = 0 then ⟨negative, word, -1074⟩
      else ⟨negative, word % 2 ^ 52 + 2 ^ 52, (word / 2 ^ 52 : Nat) - 1075⟩) := by
  simp only [infinityWord, Nat.pow_eq] at small
  have bits : (UInt64.ofNat (if negative then twoPow 63 + word else word)).toBitVec.toNat =
      if negative then 2 ^ 63 + word else word := by
    rw [UInt64.toBitVec_ofNat', BitVec.toNat_ofNat]
    refine Nat.mod_eq_of_lt ?_
    cases negative with
    | false => exact (by omega : word < 2 ^ 64)
    | true => exact (by omega : 2 ^ 63 + word < 2 ^ 64)
  have sign : decide (2 ^ 63 ≤ if negative then 2 ^ 63 + word else word) = negative := by
    cases negative <;> simp
    omega
  have field : (if negative then 2 ^ 63 + word else word) / 2 ^ 52 % 2048 = word / 2 ^ 52 := by
    split <;> omega
  have fraction : (if negative then 2 ^ 63 + word else word) % 2 ^ 52 = word % 2 ^ 52 := by
    split <;> omega
  rw [value_eq, ofWord, unpack_ofBits, valueOf_unpack (by rw [bits, field]; omega), bits, field,
    fraction, sign]
  split
  · next least => rw [Nat.mod_eq_of_lt (by omega)]
  · rfl

theorem value_ofWord_finite_iff (word : Nat) :
    (∃ b, value (ofWord false (min word infinityWord)) = .finite b) ↔ word < infinityWord := by
  by_cases small : word < infinityWord
  · rw [Nat.min_eq_left (Nat.le_of_lt small), value_ofWord false small]
    exact iff_of_true ⟨_, rfl⟩ small
  · have infinite : value (ofWord false infinityWord) = .infinite false := by decide +kernel
    rw [Nat.min_eq_right (Nat.le_of_not_lt small), infinite]
    exact iff_of_false (by simp) small

theorem lastPlace_eq (e : -1022 ≤ log2Quotient n d) : lastPlace n d = log2Quotient n d - 52 := by
  rw [lastPlace]
  omega

theorem overflow_le_iff : overflow * d ≤ n ↔ Reaches (2 ^ 54 - 1) n d halfPlace := by
  rw [reaches_iff (a := halfPlace) (b := 0) (by omega), overflow, Nat.pow_zero, Nat.mul_one,
    Nat.mul_right_comm]

theorem Reaches.of_le {c' : Nat} (h : Reaches c n d e) (le : c' ≤ c) : Reaches c' n d e :=
  Nat.le_trans (Nat.mul_le_mul_right _ le) h

-- The word of a quotient that is not tiny is below that of infinity, unless the quotient lies
-- beyond all numbers.
theorem word_lt_infinityWord_iff (hn : 0 < n) (hd : 0 < d) (large : -1022 ≤ log2Quotient n d) :
    (lastPlace n d + 1074).toNat * 2 ^ 52 + countNearest n d (lastPlace n d) < infinityWord ↔
      n < overflow * d := by
  obtain ⟨reaches, short⟩ := log2Quotient_reaches hn hd
  obtain ⟨low, high⟩ := countNearest_bounds hn hd
  have infinity : infinityWord = 2047 * 2 ^ 52 := rfl
  have exponent : halfPlace = 970 := rfl
  rw [lastPlace_eq large, infinity, ← Nat.not_le (b := n), overflow_le_iff]
  -- Only with the largest exponent does it depend on how the mantissa is rounded.
  rcases Int.lt_trichotomy (log2Quotient n d) 1023 with less | equal | more
  · refine iff_of_true (by omega) fun beyond => short ?_
    have far : Reaches 1 n d (halfPlace + (53 : Nat)) := reaches_shift.mp (beyond.of_le (by decide))
    exact far.mono (by omega)
  · have place : (log2Quotient n d - 52 + 1074).toNat = 2045 := by omega
    have power : (- -(log2Quotient n d - 52)).toNat = halfPlace + 1 := by omega
    have scale : scaled 2 n d (-(log2Quotient n d - 52)) = (n, 2 * (d * 2 ^ halfPlace)) := by
      rw [scaled, if_neg (by omega), power, Nat.pow_eq, Nat.pow_succ', Nat.mul_left_comm]
    have odd := lt_divNearest_iff (q := 2 ^ 53 - 1) (x := n) (y := 2 * (d * 2 ^ halfPlace))
      (by decide) (Nat.mul_pos Nat.two_pos (Nat.mul_pos hd (Nat.two_pow_pos _)))
    rw [reaches_iff (a := halfPlace) (b := 0) (by omega), Nat.mul_assoc, Nat.pow_zero, Nat.mul_one]
    rw [place, countNearest, scale]
    dsimp only
    omega
  · refine iff_of_false (by omega) (not_not_intro ?_)
    have far : Reaches 1 n d (halfPlace + (54 : Nat)) := reaches.mono (by omega)
    exact (reaches_shift.mpr far).of_le (by decide)

theorem value_nearestQuotient_finite_iff {n d : Nat} (hd : 0 < d) (bits : d.log2 ≤ 1000) :
    (∃ b, value (nearestQuotient n d) = .finite b) ↔ n < overflow * d := by
  have natural : decide ((n : Int) < 0) = false := decide_eq_false (by omega)
  rw [nearestQuotient, natural, Int.natAbs_natCast, nearest]
  rcases Nat.eq_zero_or_pos n with rfl | hn
  · rw [if_pos rfl]
    exact iff_of_true ⟨⟨false, 0, -1074⟩, by decide +kernel⟩ (Nat.mul_pos overflow_pos hd)
  · have large : -1022 ≤ log2Quotient n d := by
      unfold log2Quotient
      dsimp only
      split <;> omega
    rw [if_neg (Nat.ne_of_gt hn)]
    simp only [value_ofWord_finite_iff]
    exact word_lt_infinityWord_iff hn hd large

end Sidekick.Number
