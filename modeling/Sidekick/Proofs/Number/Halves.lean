import Sidekick.Proofs.Number.Whole

namespace Sidekick.Number
open Float.Model UnpackedFloat

theorem isLevel_of_unpack {x : Float} {s : Sign} {m : Nat} {e : Int} {pos : 0 < m}
    (h : x.toModel.unpack = .finite s m e pos) : IsLevel x (s.apply (size m e)) := by
  have unpacked := canonical x
  rw [h] at unpacked
  cases unpacked with
  | finite placed most =>
      have less := size_lt_infinity placed most
      exact ⟨congrArg levelOf h, by cases s <;> simpa [Sign.apply] using less⟩

theorem isHalves_of_unpack {x : Float} {m n : Nat} {e : Int} {pos : 0 < m}
    (h : x.toModel.unpack = .finite .positive m e pos) (units : size m e = n * half) :
    IsHalves x n := by
  have exact := isLevel_of_unpack h
  rw [Sign.apply, units] at exact
  exact exact

theorem isHalves_zero : IsHalves 0 0 := by
  rw [IsHalves, Nat.zero_mul]
  exact ⟨rfl, infinitySize_pos⟩

def filled (n : Nat) : Nat := n * 2 ^ (52 - n.log2)

theorem filled_bounds {n : Nat} (pos : 0 < n) (small : n < 2 ^ 53) :
    2 ^ 52 ≤ filled n ∧ filled n < 2 ^ 53 := by
  have ne : n ≠ 0 := Nat.ne_of_gt pos
  have bits : n.log2 ≤ 52 := Nat.le_of_lt_succ ((Nat.log2_lt ne).mpr small)
  constructor
  · calc 2 ^ 52
      _ = 2 ^ n.log2 * 2 ^ (52 - n.log2) := by rw [← Nat.pow_add, Nat.add_sub_cancel' bits]
      _ ≤ filled n := Nat.mul_le_mul_right _ (Nat.log2_self_le ne)
  · calc filled n
      _ < 2 ^ (n.log2 + 1) * 2 ^ (52 - n.log2) :=
        Nat.mul_lt_mul_of_pos_right Nat.lt_log2_self (Nat.two_pow_pos _)
      _ = 2 ^ 53 := by
        rw [← Nat.pow_add]
        congr 1
        omega

theorem size_filled {n : Nat} {e : Int} (least : -1022 ≤ e) :
    size (filled n) (e - (52 - n.log2 : Nat)) = size n e := by
  have shift := @size_shift e (e - (52 - n.log2 : Nat)) (by omega) (by omega) n
  have places : (e - (e - (52 - n.log2 : Nat))).toNat = 52 - n.log2 := by omega
  rw [shift, places, filled]

theorem exists_isHalves {n : Nat} (small : n < 2 ^ 53) : ∃ z, IsHalves z n := by
  rcases Nat.eq_zero_or_pos n with rfl | pos
  · exact ⟨0, isHalves_zero⟩
  · obtain ⟨full, less⟩ := filled_bounds pos small
    have pos' : 0 < filled n := by omega
    generalize he : (-1 - (52 - n.log2 : Nat) : Int) = e
    have canonical : Canonical (.finite .positive (filled n) e pos') :=
      .finite ⟨less, by omega, .inl full⟩ (by omega)
    refine ⟨⟨Float.Model.pack (.finite .positive (filled n) e pos')⟩,
      isHalves_of_unpack (unpack_pack canonical) ?_⟩
    rw [← he, size_filled (by decide), size_halves]

theorem isHalves_half : IsHalves 0.5 1 := by
  have unpacked : (0.5 : Float).toModel.unpack = .finite .positive (2 ^ 52) (-53) (by decide) := rfl
  have shift := @size_shift (-1) (-53) (by decide) (by decide) 1
  have places : 1 * 2 ^ (-1 - -53 : Int).toNat = 2 ^ 52 := by decide
  refine isHalves_of_unpack unpacked ?_
  rw [← size_halves, shift, places]

namespace IsHalves

variable {x y : Float} {m n : Nat}

theorem add (hx : IsHalves x m) (hy : IsHalves y n) (small : m + n < 2 ^ 53) :
    IsHalves (x + y) (m + n) := by
  obtain ⟨z, hz⟩ := exists_isHalves small
  have rounds := IsLevel.rounds_add hx hy
  rw [← Int.natCast_add, ← Nat.add_mul] at rounds
  exact IsLevel.of_rounds hz rounds

theorem sub (hx : IsHalves x m) (hy : IsHalves y n) (le : n ≤ m) (small : m < 2 ^ 53) :
    IsHalves (x - y) (m - n) := by
  obtain ⟨z, hz⟩ := exists_isHalves (Nat.lt_of_le_of_lt (Nat.sub_le m n) small)
  have rounds := IsLevel.rounds_sub hx hy
  rw [← Int.natCast_sub (Nat.mul_le_mul_right half le), ← Nat.sub_mul] at rounds
  exact IsLevel.of_rounds hz rounds

theorem le_iff (hx : IsHalves x m) (hy : IsHalves y n) : x ≤ y ↔ m ≤ n := by
  have scaled : ((m * half : Nat) : Int) ≤ (n * half : Nat) ↔ m ≤ n :=
    Int.ofNat_le.trans (Nat.mul_le_mul_right_iff half_pos)
  rw [← scaled, float_le_iff]
  constructor
  · rintro ⟨v, w, hv, hw, le⟩
    obtain rfl := Option.some.inj (hx.1.symm.trans hv)
    obtain rfl := Option.some.inj (hy.1.symm.trans hw)
    exact le
  · intro le
    exact ⟨_, _, hx.1, hy.1, le⟩

end IsHalves

theorem log2Quotient_mul {k d : Nat} (hk : 0 < k) (hd : 0 < d) :
    log2Quotient (k * d) k = d.log2 := by
  have ne : k * d ≠ 0 := Nat.ne_of_gt (Nat.mul_pos hk hd)
  have low : k.log2 + d.log2 ≤ (k * d).log2 := by
    rw [Nat.le_log2 ne, Nat.pow_add]
    exact Nat.mul_le_mul (Nat.log2_self_le (Nat.ne_of_gt hk)) (Nat.log2_self_le (Nat.ne_of_gt hd))
  have high : (k * d).log2 < k.log2 + 1 + (d.log2 + 1) := by
    rw [Nat.log2_lt ne, Nat.pow_add]
    exact Nat.mul_lt_mul'' Nat.lt_log2_self Nat.lt_log2_self
  -- The difference of the logarithms is the logarithm of the quotient or one more.
  obtain ⟨e, he⟩ := Nat.exists_eq_add_of_le (Nat.le_trans (Nat.le_add_right _ _) low)
  have power : ((k * d).log2 : Int) - k.log2 = e := by omega
  have scale : (scaled 2 (k * d) k (-e)).2 ≤ (scaled 2 (k * d) k (-e)).1 ↔ e ≤ d.log2 := by
    rw [Nat.le_log2 (Nat.ne_of_gt hd)]
    refine Iff.trans ?_ (Nat.mul_le_mul_left_iff hk)
    unfold scaled
    split
    · next natural =>
        obtain rfl : e = 0 := by omega
        simp
    · next negative => simp
  unfold log2Quotient
  simp only [power, scale]
  split <;> omega

theorem lastPlace_mul {k d : Nat} (hk : 0 < k) (hd : 0 < d) :
    lastPlace (k * d) k = d.log2 - 52 := by
  rw [lastPlace, log2Quotient_mul hk hd]
  omega

theorem divNearest_mul {k n : Nat} (hk : 0 < k) : divNearest (k * n) k = n := by
  unfold divNearest
  simp [hk]

theorem countNearest_mul {k d : Nat} (hk : 0 < k) (bits : d.log2 ≤ 52) :
    countNearest (k * d) k (d.log2 - 52) = filled d := by
  have places : (-((d.log2 : Int) - 52)).toNat = 52 - d.log2 := by omega
  have natural : 0 ≤ -((d.log2 : Int) - 52) := by omega
  have exact : k * d * 2 ^ (52 - d.log2) = k * filled d := Nat.mul_assoc ..
  rw [countNearest, scaled, if_pos natural, places]
  simp only [Nat.pow_eq, exact, divNearest_mul hk]

theorem unpack_ofBits (b : UInt64) :
    (Float.ofBits b).toModel.unpack = unpack .binary64 b.toBitVec :=
  unpack_pack (canonical_unpack b.toBitVec)

theorem isHalves_ofWord {m n : Nat} {e : Int} (full : 2 ^ 52 ≤ m) (small : m < 2 ^ 53)
    (least : -1074 ≤ e) (most : e ≤ 971) (units : size m e = n * half) :
    IsHalves (ofWord false ((e + 1074).toNat * 2 ^ 52 + m)) n := by
  generalize hword : (e + 1074).toNat * 2 ^ 52 + m = word
  have bits : (UInt64.ofNat word).toBitVec.toNat = word := by
    rw [UInt64.toBitVec_ofNat', BitVec.toNat_ofNat]
    omega
  have field : word / 2 ^ 52 % 2 ^ 11 = (e + 1075).toNat := by omega
  have fraction : word % 2 ^ 52 = m - 2 ^ 52 := by omega
  have sign := isNegative_unpackSign (UInt64.ofNat word).toBitVec
  rw [bits, decide_eq_false (by omega)] at sign
  rw [← bits] at field fraction
  obtain ⟨pos, unpacked⟩ := unpack_hidden field fraction (by omega) (by omega)
  have mantissa : m - 2 ^ 52 + 2 ^ 52 = m := by omega
  have exponent : ((e + 1075).toNat : Int) - 1075 = e := by omega
  rw [ofWord]
  cases positive : Sign.ofBitVec (@unpackSign .binary64 (UInt64.ofNat word).toBitVec) with
  | negative => rw [positive] at sign; cases sign
  | positive =>
      rw [positive] at unpacked
      refine isHalves_of_unpack ((unpack_ofBits _).trans unpacked) ?_
      rw [mantissa, exponent, units]

theorem isWhole_nearestQuotient {k d : Nat} (hk : 0 < k) (small : d < 2 ^ 53) :
    IsWhole (nearestQuotient (k * d : Nat) k) d := by
  rw [← isHalves_iff_isWhole]
  have natural : decide (((k * d : Nat) : Int) < 0) = false := decide_eq_false (by omega)
  rw [nearestQuotient, natural, Int.natAbs_natCast, nearest]
  rcases Nat.eq_zero_or_pos d with rfl | pos
  · exact isHalves_zero
  · obtain ⟨full, less⟩ := filled_bounds pos small
    have bits : d.log2 ≤ 52 := Nat.le_of_lt_succ ((Nat.log2_lt (Nat.ne_of_gt pos)).mpr small)
    have word : ((d.log2 : Int) - 52 + 1074).toNat * 2 ^ 52 + filled d ≤ infinityWord := by
      simp only [infinityWord, Nat.pow_eq]
      omega
    have units : size (filled d) (d.log2 - 52) = 2 * d * half := by
      rw [← size_whole, ← @size_filled d 0 (by decide)]
      congr 1
      omega
    rw [if_neg (Nat.ne_of_gt (Nat.mul_pos hk pos))]
    simp only [lastPlace_mul hk pos, countNearest_mul hk bits, Nat.pow_eq, Nat.min_eq_left word]
    exact isHalves_ofWord full less (by omega) (by omega) units

end Sidekick.Number
