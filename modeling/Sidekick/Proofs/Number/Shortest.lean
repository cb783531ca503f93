import Sidekick.Number.Shortest
import Sidekick.Proofs.Number.Hundredths

namespace Sidekick.Number
open Text

variable {negative : Bool} {n d : Nat} {place : Int} {x : Float} {dec : Decimal}

/-! ## Neighbours -/

theorem natCast_le_ratio_iff (hd : 0 < d) {c : Nat} : (c : ℚ) ≤ n / d ↔ c ≤ n / d :=
  (le_ratio_iff hd).trans (Nat.le_div_iff_mul_le hd).symm

theorem neighbour_iff (hd : 0 < d) {m : Nat} :
    m = n / d ∨ m = n / d + 1 ↔ (m - 1 : ℚ) ≤ n / d ∧ (n / d : ℚ) < m + 1 := by
  have above : (n / d : ℚ) < m + 1 ↔ n / d ≤ m := by
    rw [← not_le, ← Nat.lt_succ_iff, ← Nat.not_le (a := m + 1), ← natCast_le_ratio_iff hd]
    push_cast
    rfl
  have below : (m - 1 : ℚ) ≤ n / d ↔ m ≤ n / d + 1 := by
    cases m with
    | zero =>
        have nonneg : (0 : ℚ) ≤ n / d := by positivity
        refine iff_of_true ?_ (Nat.zero_le _)
        push_cast
        linarith
    | succ m => rw [Nat.cast_succ, add_sub_cancel_right, natCast_le_ratio_iff hd]; omega
  rw [above, below]
  omega

theorem mem_neighbours_iff (hd : 0 < d) : dec ∈ neighbours negative n d place ↔
    dec.negative = negative ∧ dec.exponent = place ∧
      (dec.digits - 1 : ℚ) ≤ n / d / 10 ^ place ∧ (n / d / 10 ^ place : ℚ) < dec.digits + 1 := by
  have ratio := scaled_ratio (show 0 < 10 by decide) n d (-place)
  rw [zpow_neg, ← div_eq_mul_inv, Nat.cast_ofNat] at ratio
  rw [← ratio, ← neighbour_iff (scaled_pos (by decide) hd)]
  cases dec
  unfold neighbours
  dsimp only
  split <;> simp only [List.mem_cons, List.not_mem_nil, or_false, Decimal.mk.injEq] <;> tauto

/-! ## The search -/

theorem exists_firstReadingBack (hd : 0 < d) {target : Decimal} {fuel : Nat}
    (mem : target ∈ neighbours negative n d target.exponent)
    (reads : target.toFloat.toBits = x.toBits) (le : target.exponent ≤ place)
    (enough : place < target.exponent + fuel) :
    ∃ dec, firstReadingBack x negative n d place fuel = some dec ∧
      dec ∈ neighbours negative n d dec.exponent ∧ target.exponent ≤ dec.exponent ∧
      dec.exponent ≤ place ∧ dec.toFloat.toBits = x.toBits := by
  induction fuel generalizing place with
  | zero => omega
  | succ fuel ih =>
      rw [firstReadingBack]
      cases found : (neighbours negative n d place).find? (·.toFloat.toBits == x.toBits) with
      | some dec =>
          have near := List.mem_of_find?_eq_some found
          have same : dec.exponent = place := ((mem_neighbours_iff hd).mp near).2.1
          refine ⟨dec, rfl, same ▸ near, same ▸ le, same.le, ?_⟩
          simpa using List.find?_some found
      | none =>
          have finer : target.exponent < place := by
            refine lt_of_le_of_ne le fun same => ?_
            have none := List.find?_eq_none.mp found target (same ▸ mem)
            exact none (beq_iff_eq.mpr reads)
          obtain ⟨dec, first, near, low, high, same⟩ := @ih (place - 1) (by omega) (by omega)
          exact ⟨dec, first, near, low, by omega, same⟩

theorem digitCount_le {m k : Nat} (h : m < 10 ^ k) : digitCount m ≤ k := by
  induction k generalizing m with
  | zero =>
      obtain rfl : m = 0 := by omega
      rw [digitCount, if_pos rfl]
  | succ k ih =>
      rw [digitCount]
      split
      · exact Nat.zero_le _
      · rw [Nat.pow_succ] at h
        exact Nat.succ_le_succ (ih (by omega))

theorem log10Quotient_bounds (hn : 0 < n) (hd : 0 < d) (low : d ≤ 100 * n)
    (high : n < 10 ^ 16 * d) : -2 ≤ log10Quotient n d ∧ log10Quotient n d ≤ 15 := by
  unfold log10Quotient
  split
  · have count := digitCount_le ((Nat.div_lt_iff_lt_mul hd).mpr high)
    omega
  · have small : (d - 1) / n < 10 ^ 2 := (Nat.div_lt_iff_lt_mul hn).mpr (by omega)
    have count := digitCount_le small
    omega

/-! ## Zeros at the end -/

theorem dropZeros_spec (dec : Decimal) (fuel : Nat) (least : -2 ≤ dec.exponent) :
    (dec.dropZeros fuel).negative = dec.negative ∧ -2 ≤ (dec.dropZeros fuel).exponent ∧
      (dec.dropZeros fuel).hundredths = dec.hundredths := by
  induction fuel generalizing dec with
  | zero => exact ⟨rfl, least, rfl⟩
  | succ fuel ih =>
      rw [Decimal.dropZeros]
      split
      · next zeros =>
          obtain ⟨sign, places, value⟩ := ih ⟨dec.negative, dec.digits / 10, dec.exponent + 1⟩
            (by dsimp only; omega)
          have power : (dec.exponent + 1 + 2).toNat = (dec.exponent + 2).toNat + 1 := by omega
          have tens : dec.digits / 10 * 10 = dec.digits := by omega
          refine ⟨sign, places, value.trans ?_⟩
          rw [Decimal.hundredths, Decimal.hundredths, power, Nat.pow_succ', ← Nat.mul_assoc, tens]
      · exact ⟨rfl, least, rfl⟩

theorem hundredths_cast (least : -2 ≤ dec.exponent) :
    (dec.hundredths : ℚ) = 100 * (dec.digits * 10 ^ dec.exponent) := by
  obtain ⟨k, hk⟩ := Int.eq_ofNat_of_zero_le (show 0 ≤ dec.exponent + 2 by omega)
  have power : dec.exponent = k - 2 := by omega
  rw [Decimal.hundredths, hk, Int.toNat_natCast, power, zpow_sub₀ (by norm_num), zpow_natCast]
  push_cast
  ring

theorem length_toDigits_of_hundredths (least : -2 ≤ dec.exponent) (some : 0 < dec.hundredths)
    (small : dec.hundredths < 10 ^ 18) :
    dec.exponent + (Nat.toDigits 10 dec.digits).length ≤ 16 := by
  have digits : 0 < dec.digits := Nat.pos_of_mul_pos_right some
  have few : (dec.exponent + 2).toNat < 18 := by
    rw [← Nat.pow_lt_pow_iff_right (a := 10) (by decide)]
    exact (Nat.le_mul_of_pos_left _ digits).trans_lt small
  obtain ⟨rest, sum⟩ : ∃ rest, (dec.exponent + 2).toNat + rest = 18 :=
    ⟨18 - (dec.exponent + 2).toNat, by omega⟩
  have below : dec.digits < 10 ^ rest := by
    rw [← sum, Nat.pow_add, Nat.mul_comm, Decimal.hundredths] at small
    exact Nat.lt_of_mul_lt_mul_right small
  have length := (Nat.length_toDigits_le_iff (by decide) (by omega)).mpr below
  omega

/-! ## Numbers near hundredths -/

theorem eq_of_toBits {x y : Float} (h : x.toBits = y.toBits) : x = y := by
  obtain ⟨⟨bits, valid⟩⟩ := x
  obtain ⟨⟨bits', valid'⟩⟩ := y
  obtain rfl : bits = bits' := h
  rfl

theorem hundredth_le {c : Binary} (h : value (nearest negative 1 100) = .finite c) :
    c.fraction.2 ≤ 100 * c.fraction.1 := by
  have found : value (nearest negative 1 100) = .finite ⟨negative, 5764607523034235, -59⟩ := by
    cases negative <;> decide +kernel
  cases found.symm.trans h
  cases negative <;> decide +kernel

/-- A number that `k` hundredths are read as, and that lies next to them. -/
structure ReadFrom (x : Float) (c : Binary) (k : Nat) : Prop where
  some : 0 < k
  found : value x = .finite c
  reads : x = nearest c.negative k 100
  near : |c.magnitude - k / 100| ≤ 1 / 200
  small : c.magnitude < 2 ^ 52 + 1

namespace ReadFrom

variable {c : Binary} {k : Nat}

theorem bounds (h : ReadFrom x c k) : 0 < c.fraction.1 ∧ c.fraction.2 ≤ 100 * c.fraction.1 ∧
    c.fraction.1 < 10 ^ 16 * c.fraction.2 := by
  have ratio := fraction_ratio c
  have positive : (0 : ℚ) < c.fraction.2 := by exact_mod_cast fraction_pos c
  have one : (1 : ℚ) ≤ k := by exact_mod_cast h.some
  have down := (abs_le.mp h.near).1
  refine ⟨Nat.pos_of_ne_zero fun none => ?_, ?_, ?_⟩
  · rw [none, Nat.cast_zero, zero_div] at ratio
    linarith
  · rcases Nat.lt_or_eq_of_le h.some with more | single
    · have two : (2 : ℚ) ≤ k := by exact_mod_cast more
      have above : (1 / 100 : ℚ) ≤ c.fraction.1 / c.fraction.2 := by
        rw [ratio]
        linarith
      rw [le_div_iff₀ positive] at above
      exact_mod_cast (by linarith : (c.fraction.2 : ℚ) ≤ 100 * c.fraction.1)
    · have reads := h.reads
      rw [← single] at reads
      exact hundredth_le (reads ▸ h.found)
  · have below : (c.fraction.1 / c.fraction.2 : ℚ) < 10 ^ 16 := by
      rw [ratio]
      exact h.small.trans (by norm_num)
    rw [div_lt_iff₀ positive] at below
    exact_mod_cast below

theorem mem_neighbours (h : ReadFrom x c k) :
    ⟨c.negative, k, -2⟩ ∈ neighbours c.negative c.fraction.1 c.fraction.2 (-2) := by
  rw [mem_neighbours_iff (fraction_pos c), fraction_ratio]
  obtain ⟨down, up⟩ := abs_le.mp h.near
  have hundred : c.magnitude / 10 ^ (-2 : Int) = 100 * c.magnitude := by
    norm_num
    ring
  rw [hundred]
  exact ⟨rfl, rfl, by linarith, by linarith⟩

theorem not_zero (h : ReadFrom x c k) (negative : Bool) : nearest negative 0 100 ≠ x := by
  intro same
  have equal : value (nearest negative 0 100) = value x := congrArg value same
  rw [value_nearest_zero, h.found] at equal
  have one : (1 : ℚ) ≤ k := by exact_mod_cast h.some
  have down := (abs_le.mp h.near).1
  have nothing : c.magnitude = 0 := by
    cases equal
    simp [Binary.magnitude]
  rw [nothing] at down
  linarith

theorem hundredths_lt (h : ReadFrom x c k) (least : -2 ≤ dec.exponent) (most : dec.exponent ≤ 15)
    (near : dec ∈ neighbours c.negative c.fraction.1 c.fraction.2 dec.exponent) :
    dec.hundredths < 10 ^ 18 := by
  obtain ⟨-, -, floor, -⟩ := (mem_neighbours_iff (fraction_pos c)).mp near
  have positive : (0 : ℚ) < 10 ^ dec.exponent := by positivity
  have unit : (10 : ℚ) ^ dec.exponent ≤ 10 ^ (15 : Int) :=
    zpow_le_zpow_right₀ (by norm_num) most
  rw [fraction_ratio, le_div_iff₀ positive, sub_one_mul] at floor
  have below := h.small
  have bound : (dec.hundredths : ℚ) < 10 ^ 18 := by
    rw [hundredths_cast least]
    norm_num at unit below ⊢
    linarith
  exact_mod_cast bound

theorem exists_shortest (h : ReadFrom x c k) : ∃ dec : Decimal, shortest x c = dec ∧
    dec.negative = c.negative ∧ -2 ≤ dec.exponent ∧
    dec.exponent + (Nat.toDigits 10 dec.digits).length ≤ 16 ∧
    nearest c.negative dec.hundredths 100 = x := by
  obtain ⟨some, low, high⟩ := h.bounds
  obtain ⟨least, most⟩ := log10Quotient_bounds some (fraction_pos c) low high
  have target : (⟨c.negative, k, -2⟩ : Decimal).toFloat.toBits = x.toBits := by
    rw [toFloat_hundredths (Int.le_refl _) (by dsimp only; omega), h.reads]
    simp [Decimal.hundredths]
  have enough : log10Quotient c.fraction.1 c.fraction.2 < -2 + exactDigits := by
    simp only [exactDigits]
    omega
  obtain ⟨dec, first, near, coarse, fine, reads⟩ :=
    exists_firstReadingBack (fraction_pos c) h.mem_neighbours target least enough
  have sign : dec.negative = c.negative := ((mem_neighbours_iff (fraction_pos c)).mp near).1
  replace reads := eq_of_toBits reads
  rw [toFloat_hundredths coarse (by omega), sign] at reads
  obtain ⟨sign', places, value⟩ := dropZeros_spec dec exactDigits coarse
  have some' : 0 < dec.hundredths := by
    refine Nat.pos_of_ne_zero fun none => h.not_zero c.negative ?_
    rw [← none, reads]
  have small : dec.hundredths < 10 ^ 18 := h.hundredths_lt coarse (by omega) near
  refine ⟨dec.dropZeros exactDigits, ?_, sign'.trans sign, places, ?_, value ▸ reads⟩
  · unfold shortest
    dsimp only
    rw [if_neg some.ne', first]
  · exact length_toDigits_of_hundredths places (value ▸ some') (value ▸ small)

theorem pointed (h : ReadFrom x c k) : ∃ n whole places,
    (text x).toList = (if c.negative then ['-'] else []) ++ (whole ++ '.' :: places) ∧
      Pointed n whole places ∧ nearest c.negative n 100 = x := by
  obtain ⟨dec, first, sign, least, short, reads⟩ := h.exists_shortest
  obtain ⟨whole, places, written, shown⟩ := pointed_text least short
  refine ⟨dec.hundredths, whole, places, ?_, shown, reads⟩
  simp only [text, h.found, first]
  rw [written, sign]

end ReadFrom

theorem pointed_zero (negative : Bool) : ∃ n whole places,
    (text (nearest negative 0 100)).toList =
      (if negative then ['-'] else []) ++ (whole ++ '.' :: places) ∧
      Pointed n whole places ∧ nearest negative n 100 = nearest negative 0 100 := by
  refine ⟨0, ['0'], ['0'], ?_, ⟨by decide, by decide, by decide, by decide⟩, rfl⟩
  cases negative <;> decide +kernel

end Sidekick.Number
