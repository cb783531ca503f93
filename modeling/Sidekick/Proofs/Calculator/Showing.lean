import Sidekick.Calculator.Display
import Sidekick.Proofs.Number.Shortest

namespace Sidekick.Calculator
open Number Text

/-- A sign for negative values, digits, a point, and one or two digits. They are read as the number
that is nearest to the nearest multiple of a hundredth and has the same sign. -/
structure ShowsHundredths (b : Binary) (s : List Char) : Prop where
  written : ∃ whole places, s = (if b.negative then ['-'] else []) ++ (whole ++ '.' :: places) ∧
    whole ≠ [] ∧ AllDigits (whole ++ places) ∧ (places.length = 1 ∨ places.length = 2)
  rounded : ∃ (k : Int) (y : Float) (c : Binary), IsRounded k (100 * b.exact) ∧
    read? s = some y ∧ value y = .finite c ∧ IsNearest c (k / 100) ∧ c.negative = b.negative

variable {x : Float} {b : Binary}

theorem display_whole (h : value x = .finite b) {z : Int} (eq : b.exact = z) :
    display x = toString z := by
  have whole := isWhole_iff_exact.mpr ⟨z, eq⟩
  have part : z = signed b.negative b.wholePart := by
    rw [Binary.exact, isWhole_iff_magnitude.mp whole, withSign_natCast] at eq
    exact_mod_cast eq.symm
  simp only [display, h, whole, if_true, part]

theorem magnitude_lt_of_not_whole (h : value x = .finite b) (part : ¬ b.isWhole = true) :
    b.magnitude < 2 ^ 52 := by
  have places : b.exponent < 0 := by
    by_contra natural
    refine part ?_
    rw [Binary.isWhole, Binary.fraction, scaled, if_pos (by omega), Nat.mod_one]
    rfl
  have small : (b.mantissa : ℚ) < 2 ^ 53 := by exact_mod_cast (isPlaced_of_value h).1.small
  have half : (2 : ℚ) ^ b.exponent ≤ 2 ^ (-1 : Int) :=
    zpow_le_zpow_right₀ one_le_two (by omega)
  have nonneg : (0 : ℚ) ≤ b.mantissa := by positivity
  calc b.magnitude ≤ b.mantissa * 2 ^ (-1 : Int) := mul_le_mul_of_nonneg_left half nonneg
    _ < 2 ^ 53 * 2 ^ (-1 : Int) := mul_lt_mul_of_pos_right small (by positivity)
    _ = 2 ^ 52 := by norm_num

theorem isRounded_countPlaces (b : Binary) :
    IsRounded (b.countPlaces 2) (100 * b.magnitude) := by
  have rounded := isRounded_divNearest (b.fraction.1 * tenPow 2) (fraction_pos b)
  have ratio : ((b.fraction.1 * tenPow 2 : Nat) / b.fraction.2 : ℚ) = 100 * b.magnitude := by
    rw [← fraction_ratio, Nat.cast_mul, mul_div_right_comm, mul_comm]
    norm_num
  rw [ratio] at rounded
  exact rounded

theorem readFrom_roundPlaces (h : value x = .finite b) (part : ¬ b.isWhole = true) :
    ∃ c, value (b.roundPlaces 2) = .finite c ∧ c.negative = b.negative ∧
      IsNearest c (withSign b.negative (b.countPlaces 2 / 100)) ∧
      (0 < b.countPlaces 2 → ReadFrom (b.roundPlaces 2) c (b.countPlaces 2)) := by
  have size := magnitude_lt_of_not_whole h part
  obtain ⟨down, up⟩ := abs_le.mp (isRounded_countPlaces b).half
  rw [Int.cast_natCast] at down up
  have small : b.countPlaces 2 < overflow * 100 := by
    have bound : (b.countPlaces 2 : ℚ) < (2 ^ 60 : Nat) := by
      push_cast
      linarith
    have large : 2 ^ 60 ≤ overflow * 100 := by decide +kernel
    exact (Nat.cast_lt.mp bound).trans_le large
  obtain ⟨c, found, sign, nearest⟩ := isNearest_nearest b.negative (d := 100) (by decide) small
  rw [Nat.cast_ofNat] at nearest
  have near : |c.magnitude - b.countPlaces 2 / 100| ≤ 1 / 200 := by
    have closest := nearest.closest x b h
    rw [Binary.exact, Binary.exact, sign, abs_withSign_sub, abs_withSign_sub] at closest
    refine closest.trans (abs_le.mpr ⟨?_, ?_⟩) <;> linarith
  refine ⟨c, found, sign, nearest, fun some => ⟨some, found, ?_, near, ?_⟩⟩
  · rw [sign]
    rfl
  · have above := (abs_le.mp near).2
    linarith

theorem showsHundredths_display (h : value x = .finite b) (part : ¬ b.isWhole = true) :
    ShowsHundredths b (display x).toList := by
  obtain ⟨c, found, sign, nearest, reads⟩ := readFrom_roundPlaces h part
  have shown : ∃ n whole places, (text (b.roundPlaces 2)).toList =
      (if b.negative then ['-'] else []) ++ (whole ++ '.' :: places) ∧
      Pointed n whole places ∧ Number.nearest b.negative n 100 = b.roundPlaces 2 := by
    rcases Nat.eq_zero_or_pos (b.countPlaces 2) with none | some
    · rw [Binary.roundPlaces, none]
      exact pointed_zero b.negative
    · rw [← sign]
      exact (reads some).pointed
  obtain ⟨n, whole, places, written, pointed, same⟩ := shown
  have display : (display x).toList =
      (if b.negative then ['-'] else []) ++ (whole ++ '.' :: places) := by
    simp only [Calculator.display, h, if_neg part]
    exact written
  refine ⟨⟨whole, places, display, pointed.nonempty, pointed.digits, pointed.short⟩,
    signed b.negative (b.countPlaces 2), b.roundPlaces 2, c, ?_, ?_, found, ?_, sign⟩
  · have rounded := (isRounded_countPlaces b).withSign b.negative
    have scale : withSign b.negative (100 * b.magnitude) = 100 * b.exact := by
      unfold Binary.exact withSign
      split <;> ring
    rwa [scale] at rounded
  · rw [display, read?_of_pointed b.negative pointed, same]
  · have scale : ((signed b.negative (b.countPlaces 2) : Int) / 100 : ℚ) =
        withSign b.negative (b.countPlaces 2 / 100) := by
      rw [← withSign_natCast]
      unfold withSign
      split <;> ring
    rwa [scale]

theorem display_of_finite (h : value x = .finite b) :
    (∀ z : Int, b.exact = z → display x = toString z) ∧
    ((∀ z : Int, b.exact ≠ z) → ShowsHundredths b (display x).toList) := by
  refine ⟨fun z eq => display_whole h eq, fun part => showsHundredths_display h fun whole => ?_⟩
  obtain ⟨z, eq⟩ := isWhole_iff_exact.mp whole
  exact part z eq

theorem display_of_finite_eighth :
    ShowsHundredths ⟨false, 2 ^ 52, -55⟩ "0.12".toList ∧
      display (Float.ofBits 0x8000000000000000) = toString (0 : Int) := by
  have eighth : value (Float.ofBits 0x3FC0000000000000) = .finite ⟨false, 2 ^ 52, -55⟩ := by
    decide +kernel
  have zero : value (Float.ofBits 0x8000000000000000) = .finite ⟨true, 0, -1074⟩ := by
    decide +kernel
  have shown : display (Float.ofBits 0x3FC0000000000000) = "0.12" := by decide +kernel
  constructor
  · rw [← shown]
    refine (display_of_finite eighth).2 fun z eq => ?_
    exact absurd (isWhole_iff_exact.mpr ⟨z, eq⟩) (by decide +kernel)
  · exact (display_of_finite zero).1 0 (by simp [Binary.exact, Binary.magnitude, withSign])

end Sidekick.Calculator
