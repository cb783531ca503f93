import Sidekick.Proofs.Number.Exact

namespace Sidekick.Number
open Float.Model UnpackedFloat

/-! ## Nearest integers -/

/-- The integer `k` is nearest to `q`, and even if another one is as near. -/
structure IsRounded (k : Int) (q : ℚ) : Prop where
  half : |k - q| ≤ 1 / 2
  even : |k - q| = 1 / 2 → Even k

namespace IsRounded

variable {k j : Int} {q : ℚ}

theorem one_le_abs_sub_add (ne : j ≠ k) : 1 ≤ |j - q| + |k - q| := by
  have apart : (1 : ℚ) ≤ |((j - k : Int) : ℚ)| := by
    exact_mod_cast Int.one_le_abs (sub_ne_zero.mpr ne)
  have difference : ((j - k : Int) : ℚ) = (j - q) - (k - q) := by
    push_cast
    ring
  rw [difference] at apart
  exact apart.trans (abs_sub _ _)

theorem closest (h : IsRounded k q) (j : Int) : |k - q| ≤ |j - q| := by
  by_cases same : j = k
  · rw [same]
  · have apart := one_le_abs_sub_add (q := q) same
    have half := h.half
    linarith

theorem even_of_eq (h : IsRounded k q) (ne : j ≠ k) (eq : |k - q| = |j - q|) : Even k := by
  have apart := one_le_abs_sub_add (q := q) ne
  have half := h.half
  exact h.even (by linarith)

theorem neg (h : IsRounded k q) : IsRounded (-k) (-q) := by
  have same : |((-k : Int) : ℚ) - -q| = |k - q| := by
    rw [← abs_neg]
    push_cast
    ring_nf
  exact ⟨same ▸ h.half, fun eq => (h.even (same ▸ eq)).neg⟩

theorem withSign {n : Nat} (h : IsRounded n q) (negative : Bool) :
    IsRounded (signed negative n) (withSign negative q) := by
  cases negative with
  | false => exact h
  | true => exact h.neg

end IsRounded

variable {n d : Nat}

theorem isRounded_divNearest (n : Nat) (hd : 0 < d) : IsRounded (divNearest n d) (n / d) := by
  have positive : (0 : ℚ) < d := by exact_mod_cast hd
  have scale : (((divNearest n d : Nat) : Int) - n / d : ℚ) = (divNearest n d * d - n) / d := by
    field_simp
    push_cast
    ring
  obtain ⟨low, high⟩ := divNearest_within_half (n := n) hd
  have low' : (2 * n : ℚ) ≤ 2 * (divNearest n d * d) + d := by exact_mod_cast low
  have high' : (2 * (divNearest n d * d) : ℚ) ≤ 2 * n + d := by exact_mod_cast high
  constructor
  · rw [scale, abs_div, abs_of_pos positive, div_le_iff₀ positive, abs_le]
    constructor <;> linarith
  · intro eq
    rw [scale, abs_div, abs_of_pos positive, div_eq_iff positive.ne'] at eq
    have half : 2 * n = 2 * (divNearest n d * d) + d ∨ 2 * (divNearest n d * d) = 2 * n + d := by
      rcases abs_cases (divNearest n d * d - n : ℚ) with ⟨same, -⟩ | ⟨same, -⟩
      · right
        exact_mod_cast (by linarith : (2 * (divNearest n d * d) : ℚ) = 2 * n + d)
      · left
        exact_mod_cast (by linarith : (2 * n : ℚ) = 2 * (divNearest n d * d) + d)
    rw [Int.even_coe_nat, Nat.even_iff]
    exact divNearest_even_of_half hd half

/-! ## Nearest numbers -/

/-- No finite number is nearer to `q`, and if another one is as near, the mantissa is even. -/
structure IsNearest (c : Binary) (q : ℚ) : Prop where
  closest : ∀ y b, value y = .finite b → |c.exact - q| ≤ |b.exact - q|
  even : ∀ y b, value y = .finite b → b.exact ≠ c.exact → |c.exact - q| = |b.exact - q| →
    Even c.mantissa

/-! ## Grids -/

variable {q : ℚ} {place e : Int} {k : Nat}

theorem IsRounded.closest_multiple (hk : IsRounded k (q / 2 ^ place)) (j : Int) :
    |k * 2 ^ place - q| ≤ |j * 2 ^ place - q| ∧
      (j ≠ k → |k * 2 ^ place - q| = |j * 2 ^ place - q| → Even k) := by
  have positive : (0 : ℚ) < 2 ^ place := by positivity
  have scale (i : Int) : |i * 2 ^ place - q| = |i - q / 2 ^ place| * 2 ^ place := by
    rw [← abs_of_pos positive, ← abs_mul, abs_of_pos positive, sub_mul,
      div_mul_cancel₀ q positive.ne']
  have own := scale k
  rw [Int.cast_natCast] at own
  rw [own, scale]
  refine ⟨mul_le_mul_of_nonneg_right (hk.closest j) positive.le, fun differs eq => ?_⟩
  exact_mod_cast hk.even_of_eq differs (mul_right_cancel₀ positive.ne' eq)

-- Numbers with last places below the grid have too few bits to come up to `q`.
theorem IsRounded.closer_of_finer (hk : IsRounded k (q / 2 ^ place))
    (large : 2 ^ 52 * 2 ^ place ≤ q) {m : Int} (small : |m| < 2 ^ 53) (finer : e < place) :
    |k * 2 ^ place - q| < |m * 2 ^ e - q| := by
  have below : (m * 2 ^ e : ℚ) < 2 ^ 52 * 2 ^ place := by
    have power : (0 : ℚ) < 2 ^ e := by positivity
    have less : (m : ℚ) < 2 ^ 53 := by exact_mod_cast (abs_lt.mp small).2
    calc (m * 2 ^ e : ℚ) < 2 ^ 53 * 2 ^ e := mul_lt_mul_of_pos_right less power
      _ = 2 ^ 52 * 2 ^ (e + 1) := by rw [zpow_add₀ two_ne_zero]; ring
      _ ≤ 2 ^ 52 * 2 ^ place :=
        mul_le_mul_of_nonneg_left (zpow_le_zpow_right₀ one_le_two finer) (by positivity)
  have one : ((2 ^ 52 : Int) : ℚ) = 2 ^ 52 := by norm_num
  calc |k * 2 ^ place - q| ≤ |2 ^ 52 * 2 ^ place - q| := one ▸ (hk.closest_multiple (2 ^ 52)).1
    _ = q - 2 ^ 52 * 2 ^ place := by
      rw [abs_sub_comm, abs_of_nonneg (sub_nonneg.mpr large)]
    _ < q - m * 2 ^ e := sub_lt_sub_left below q
    _ ≤ |m * 2 ^ e - q| := by
      rw [abs_sub_comm]
      exact le_abs_self _

theorem grid_closest (hk : IsRounded k (q / 2 ^ place))
    (full : place = -1074 ∨ 2 ^ 52 * 2 ^ place ≤ q) {m : Int} (small : |m| < 2 ^ 53)
    (least : -1074 ≤ e) :
    |k * 2 ^ place - q| ≤ |m * 2 ^ e - q| ∧
      ((m * 2 ^ e : ℚ) ≠ k * 2 ^ place → |k * 2 ^ place - q| = |m * 2 ^ e - q| → Even k) := by
  rcases Int.lt_or_le e place with finer | coarser
  · have strict := hk.closer_of_finer (full.resolve_left (by omega)) small finer
    exact ⟨strict.le, fun _ eq => absurd eq strict.ne⟩
  · obtain ⟨shift, rfl⟩ : ∃ shift : Nat, e = place + shift := ⟨(e - place).toNat, by omega⟩
    have multiple : (m * 2 ^ (place + shift) : ℚ) = (m * 2 ^ shift : Int) * 2 ^ place := by
      rw [zpow_add₀ two_ne_zero, zpow_natCast]
      push_cast
      ring
    rw [multiple]
    obtain ⟨near, tie⟩ := hk.closest_multiple (m * 2 ^ shift)
    refine ⟨near, fun ne => tie fun same => ne ?_⟩
    rw [same, Int.cast_natCast]

/-! ## Rounded quotients -/

theorem isRounded_countNearest (n : Nat) (hd : 0 < d) (place : Int) :
    IsRounded (countNearest n d place) (n / d / 2 ^ place) := by
  have ratio := scaled_ratio Nat.two_pos n d (-place)
  rw [zpow_neg, ← div_eq_mul_inv, Nat.cast_ofNat] at ratio
  rw [← ratio]
  exact isRounded_divNearest _ (scaled_pos Nat.two_pos hd)

theorem countNearest_le (hn : 0 < n) (hd : 0 < d) {place : Int}
    (h : log2Quotient n d - 52 ≤ place) : countNearest n d place ≤ 2 ^ 53 := by
  have short : ¬ Reaches (2 ^ 53) n d place := by
    rw [reaches_shift]
    exact fun more => (log2Quotient_reaches hn hd).2 (more.mono (by omega))
  exact divNearest_le (scaled_pos Nat.two_pos hd) (Nat.lt_of_not_le short)

theorem lastPlace_cases (n d : Nat) : lastPlace n d = -1074 ∧ log2Quotient n d - 52 ≤ -1074 ∨
    lastPlace n d = log2Quotient n d - 52 ∧ -1074 ≤ log2Quotient n d - 52 := by
  unfold lastPlace
  omega

-- The last place is as fine as that of the numbers near the quotient.
theorem lastPlace_full (hn : 0 < n) (hd : 0 < d) :
    lastPlace n d = -1074 ∨ 2 ^ 52 * 2 ^ lastPlace n d ≤ (n / d : ℚ) := by
  rcases lastPlace_cases n d with ⟨eq, -⟩ | ⟨eq, -⟩
  · exact .inl eq
  · have shift : (2 ^ 52 * 2 ^ (log2Quotient n d - 52) : ℚ) = 2 ^ log2Quotient n d := by
      rw [zpow_sub₀ two_ne_zero]
      field_simp
    rw [eq, shift]
    exact .inr (two_pow_le_ratio hn hd)

def nearestWord (n d : Nat) : Nat :=
  (lastPlace n d + 1074).toNat * 2 ^ 52 + countNearest n d (lastPlace n d)

theorem nearestWord_lt (hn : 0 < n) (hd : 0 < d) (small : n < overflow * d) :
    nearestWord n d < infinityWord := by
  by_cases large : -1022 ≤ log2Quotient n d
  · exact (word_lt_infinityWord_iff hn hd large).mpr small
  · have least : lastPlace n d = -1074 := by
      rcases lastPlace_cases n d with ⟨eq, -⟩ | ⟨eq, le⟩ <;> omega
    have count : countNearest n d (-1074) ≤ 2 ^ 53 := countNearest_le hn hd (by omega)
    have infinity : infinityWord = 2047 * 2 ^ 52 := rfl
    rw [nearestWord, least, infinity]
    omega

-- A count stands for itself in its place. A count of `2 ^ 53` takes a new place, where the mantissa
-- is even.
theorem value_ofWord_count (negative : Bool) {count : Nat} (least : -1074 ≤ place)
    (full : place = -1074 ∨ 2 ^ 52 ≤ count) (most : count ≤ 2 ^ 53)
    (below : (place + 1074).toNat * 2 ^ 52 + count < infinityWord) :
    ∃ c, value (ofWord negative ((place + 1074).toNat * 2 ^ 52 + count)) = .finite c ∧
      c.negative = negative ∧ c.magnitude = count * 2 ^ place ∧
      (Even count → Even c.mantissa) := by
  rw [value_ofWord negative below]
  refine ⟨_, rfl, ?_⟩
  rcases Nat.lt_or_ge count (2 ^ 52) with few | many
  · obtain rfl := full.resolve_right (by omega)
    have whole : ((-1074 : Int) + 1074).toNat * 2 ^ 52 + count = count := by simp
    rw [whole, if_pos (Nat.div_eq_of_lt few)]
    exact ⟨rfl, rfl, id⟩
  · rcases Nat.lt_or_eq_of_le most with less | rfl
    · have field : ((place + 1074).toNat * 2 ^ 52 + count) / 2 ^ 52 = (place + 1075).toNat := by
        omega
      have fraction : ((place + 1074).toNat * 2 ^ 52 + count) % 2 ^ 52 + 2 ^ 52 = count := by
        omega
      have exponent : ((place + 1075).toNat : Int) - 1075 = place := by omega
      rw [field, fraction, exponent, if_neg (by omega)]
      exact ⟨rfl, rfl, id⟩
    · have field : ((place + 1074).toNat * 2 ^ 52 + 2 ^ 53) / 2 ^ 52 = (place + 1076).toNat := by
        omega
      have fraction : ((place + 1074).toNat * 2 ^ 52 + 2 ^ 53) % 2 ^ 52 + 2 ^ 52 = 2 ^ 52 := by
        omega
      have exponent : ((place + 1076).toNat : Int) - 1075 = place + 1 := by omega
      rw [field, fraction, exponent, if_neg (by omega)]
      refine ⟨rfl, ?_, fun _ => (by decide : Even (2 ^ 52))⟩
      rw [Binary.magnitude, zpow_add₀ two_ne_zero]
      push_cast
      ring

theorem value_nearest (hn : 0 < n) (hd : 0 < d) (small : n < overflow * d) (negative : Bool) :
    ∃ c, value (nearest negative n d) = .finite c ∧ c.negative = negative ∧
      c.magnitude = countNearest n d (lastPlace n d) * 2 ^ lastPlace n d ∧
      (Even (countNearest n d (lastPlace n d)) → Even c.mantissa) := by
  have below := nearestWord_lt hn hd small
  have least : -1074 ≤ lastPlace n d := by
    unfold lastPlace
    omega
  have full : lastPlace n d = -1074 ∨ 2 ^ 52 ≤ countNearest n d (lastPlace n d) := by
    rcases lastPlace_cases n d with ⟨eq, -⟩ | ⟨eq, -⟩
    · exact .inl eq
    · exact .inr (eq ▸ (countNearest_bounds hn hd).1)
  have most : countNearest n d (lastPlace n d) ≤ 2 ^ 53 := by
    refine countNearest_le hn hd ?_
    unfold lastPlace
    omega
  have rounded : nearest negative n d = ofWord negative (nearestWord n d) := by
    rw [nearest, if_neg (Nat.ne_of_gt hn)]
    simp only [Nat.pow_eq]
    rw [← nearestWord, Nat.min_eq_left (Nat.le_of_lt below)]
  rw [rounded]
  exact value_ofWord_count negative least full most below

theorem value_nearest_zero (negative : Bool) (d : Nat) :
    value (nearest negative 0 d) = .finite ⟨negative, 0, -1074⟩ := by
  rw [nearest, if_pos rfl]
  cases negative <;> decide +kernel

theorem exists_magnitude (negative : Bool) (b : Binary) :
    ∃ m : Int, |m| = b.mantissa ∧ withSign negative b.exact = m * 2 ^ b.exponent := by
  have magnitude : b.magnitude = (b.mantissa : Int) * 2 ^ b.exponent := by
    rw [Int.cast_natCast]
    rfl
  by_cases same : negative = b.negative
  · refine ⟨b.mantissa, Int.abs_natCast _, ?_⟩
    rw [same, Binary.exact, withSign_withSign, magnitude]
  · refine ⟨-b.mantissa, by rw [abs_neg, Int.abs_natCast], ?_⟩
    have opposite : withSign negative b.exact = -b.magnitude := by
      unfold Binary.exact withSign
      cases negative <;> cases sign : b.negative <;> simp_all
    rw [opposite, magnitude]
    push_cast
    ring

theorem isNearest_nearest (negative : Bool) {n d : Nat} (hd : 0 < d) (small : n < overflow * d) :
    ∃ c, value (nearest negative n d) = .finite c ∧ c.negative = negative ∧
      IsNearest c (withSign negative (n / d)) := by
  rcases Nat.eq_zero_or_pos n with rfl | hn
  · have exact : (⟨negative, 0, -1074⟩ : Binary).exact = withSign negative ((0 : Nat) / d : ℚ) := by
      simp [Binary.exact, Binary.magnitude]
    refine ⟨_, value_nearest_zero negative d, rfl, ?_, fun _ _ _ _ _ => Even.zero⟩
    intro y b _
    rw [exact, sub_self, abs_zero]
    exact abs_nonneg _
  · obtain ⟨c, found, sign, magnitude, even⟩ := value_nearest hn hd small negative
    have exact : c.exact = withSign negative
        (countNearest n d (lastPlace n d) * 2 ^ lastPlace n d) := by
      rw [Binary.exact, sign, magnitude]
    have grid {y : Float} {b : Binary} (hb : value y = .finite b) :
        |c.exact - withSign negative (n / d)| ≤ |b.exact - withSign negative (n / d)| ∧
          (b.exact ≠ c.exact → |c.exact - withSign negative (n / d)| =
            |b.exact - withSign negative (n / d)| → Even c.mantissa) := by
      obtain ⟨placed, -⟩ := isPlaced_of_value hb
      obtain ⟨m, size, eq⟩ := exists_magnitude negative b
      have other : b.exact = withSign negative (m * 2 ^ b.exponent) := by
        rw [← eq, withSign_withSign]
      have bits : |m| < 2 ^ 53 := by
        rw [size]
        exact_mod_cast placed.small
      obtain ⟨closest, tie⟩ :=
        grid_closest (isRounded_countNearest n hd (lastPlace n d)) (lastPlace_full hn hd) bits
          placed.least
      rw [exact, other, abs_withSign_sub, abs_withSign_sub]
      refine ⟨closest, fun ne same => even (tie (fun eq => ne ?_) same)⟩
      rw [eq]
    exact ⟨c, found, sign, fun y b hb => (grid hb).1, fun y b hb => (grid hb).2⟩

/-! ## Equal quotients -/

theorem divNearest_scale (hk : 0 < k) (n d : Nat) :
    divNearest (k * n) (k * d) = divNearest n d := by
  unfold divNearest
  simp only [Nat.mul_div_mul_left n d hk, Nat.mul_mod_mul_left, Nat.mul_left_comm 2 k,
    Nat.mul_lt_mul_left hk]

theorem scaled_scale (base k n d : Nat) (e : Int) : scaled base (k * n) (k * d) e =
    (k * (scaled base n d e).1, k * (scaled base n d e).2) := by
  unfold scaled
  split <;> simp only [Nat.mul_assoc]

theorem log2Quotient_scale (hk : 0 < k) (hn : 0 < n) (hd : 0 < d) :
    log2Quotient (k * n) (k * d) = log2Quotient n d := by
  have same : ((k * n : Nat) / (k * d : Nat) : ℚ) = n / d := by
    have nonzero : (k : ℚ) ≠ 0 := by exact_mod_cast hk.ne'
    push_cast
    exact mul_div_mul_left _ _ nonzero
  have low := two_pow_le_ratio (Nat.mul_pos hk hn) (Nat.mul_pos hk hd)
  have high := ratio_lt_two_pow (Nat.mul_pos hk hn) (Nat.mul_pos hk hd)
  rw [same] at low high
  have up := low.trans_lt (ratio_lt_two_pow hn hd)
  have down := (two_pow_le_ratio hn hd).trans_lt high
  rw [zpow_lt_zpow_iff_right₀ one_lt_two] at up down
  omega

theorem nearest_scale (negative : Bool) (hk : 0 < k) (n : Nat) (hd : 0 < d) :
    nearest negative (k * n) (k * d) = nearest negative n d := by
  rcases Nat.eq_zero_or_pos n with rfl | hn
  · rw [Nat.mul_zero, nearest, nearest, if_pos rfl, if_pos rfl]
  · have place : lastPlace (k * n) (k * d) = lastPlace n d := by
      rw [lastPlace, log2Quotient_scale hk hn hd, ← lastPlace]
    have count : countNearest (k * n) (k * d) (lastPlace n d) =
        countNearest n d (lastPlace n d) := by
      rw [countNearest, scaled_scale]
      exact divNearest_scale hk _ _
    rw [nearest, nearest, if_neg (Nat.mul_pos hk hn).ne', if_neg hn.ne']
    simp only [place, count]

end Sidekick.Number
