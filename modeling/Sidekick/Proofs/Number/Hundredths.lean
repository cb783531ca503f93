import Sidekick.Number.Notation
import Sidekick.Proofs.Number.Closest
import Sidekick.Proofs.Number.Digits

namespace Sidekick.Number
open Text

def Decimal.hundredths (x : Decimal) : Nat := x.digits * 10 ^ (x.exponent + 2).toNat

variable {x : Decimal}

theorem toFloat_hundredths (least : -2 ≤ x.exponent) (most : x.exponent < 400) :
    x.toFloat = nearest x.negative x.hundredths 100 := by
  rw [Decimal.toFloat]
  by_cases zero : x.digits = 0
  · rw [if_pos zero, Decimal.hundredths, zero, Nat.zero_mul, nearest, nearest, if_pos rfl,
      if_pos rfl]
  rw [if_neg zero, if_neg (by omega), if_neg (by omega), Decimal.hundredths, scaled]
  by_cases natural : 0 ≤ x.exponent
  · have power : (x.exponent + 2).toNat = x.exponent.toNat + 2 := by omega
    have shift : x.digits * 10 ^ (x.exponent.toNat + 2) =
        100 * (x.digits * 10 ^ x.exponent.toNat) := by
      rw [Nat.pow_add]
      ring
    rw [if_pos natural, power, shift]
    exact (nearest_scale x.negative (k := 100) (by decide) _ Nat.one_pos).symm
  · rw [if_neg natural]
    rcases (by omega : x.exponent = -1 ∨ x.exponent = -2) with tenths | small
    · rw [tenths]
      have shift := nearest_scale x.negative (k := 10) (by decide) x.digits (d := 10) (by decide)
      rw [Nat.mul_comm 10 x.digits] at shift
      exact shift.symm
    · rw [small]
      exact congrArg (nearest x.negative · 100) (Nat.mul_one x.digits).symm

structure Pointed (n : Nat) (whole places : List Char) : Prop where
  nonempty : whole ≠ []
  digits : AllDigits (whole ++ places)
  short : places.length = 1 ∨ places.length = 2
  hundredths : decimalValue (whole ++ places) * 10 ^ (2 - places.length) = n

section

variable {digits : List Char}

theorem toList_write_below_one {zeros : Nat} (few : zeros ≤ 3) :
    (layout.write digits (-zeros - 1)).toList =
      ['0'] ++ '.' :: (List.replicate zeros '0' ++ digits) := by
  have positional : layout.leastPositional ≤ (-zeros - 1 : Int) ∧
      (-zeros - 1 : Int) < layout.leastLarge := by
    simp only [layout]
    omega
  have count : (-(-zeros - 1 : Int) - 1).toNat = zeros := by omega
  rw [Layout.write, if_pos positional, if_pos (by omega), count, String.toList_append,
    String.toList_ofList, String.toList_ofList]
  rfl

theorem toList_write_from_one {front : Nat} (some : 0 < front) (most : front ≤ 16) :
    (layout.write digits (front - 1)).toList =
      (digits.take front ++ List.replicate (front - digits.length) '0') ++
        '.' :: if front < digits.length then digits.drop front else ['0'] := by
  have positional : layout.leastPositional ≤ (front - 1 : Int) ∧
      (front - 1 : Int) < layout.leastLarge := by
    simp only [layout]
    omega
  have count : (front - 1 : Int).toNat + 1 = front := by omega
  have zeros : front - min front digits.length = front - digits.length := by omega
  rw [Layout.write, if_pos positional, if_neg (by omega)]
  simp only [count, List.isEmpty_iff, List.drop_eq_nil_iff, ← Nat.not_lt, ite_not,
    String.toList_append, String.toList_ofList, List.length_take, zeros]
  split
  · rw [String.toList_append, String.toList_ofList, String.toList_ofList]
    rfl
  · rfl

variable {e : Int}

-- With no digit before the point a zero stands there.
theorem write_below_one (hd : AllDigits digits) (ne : digits ≠ []) (least : -2 ≤ e)
    (small : e + digits.length ≤ 0) : ∃ whole places,
    (layout.write digits (e + digits.length - 1)).toList = whole ++ '.' :: places ∧
      Pointed (decimalValue digits * 10 ^ (e + 2).toNat) whole places := by
  have some := List.length_pos_iff.mpr ne
  obtain ⟨zeros, power⟩ : ∃ zeros : Nat, e + digits.length = -zeros :=
    ⟨(-(e + digits.length)).toNat, by omega⟩
  rw [power, toList_write_below_one (by omega)]
  refine ⟨_, _, rfl, List.cons_ne_nil _ _, ?_, ?_, ?_⟩
  · exact List.forall_mem_append.mpr
      ⟨by decide, List.forall_mem_append.mpr ⟨allDigits_zeros _, hd⟩⟩
  · rw [List.length_append, List.length_replicate]
    omega
  · have zero : decimalValue ['0'] = 0 := by decide
    have places : 2 - (zeros + digits.length) = (e + 2).toNat := by omega
    rw [decimalValue_append, decimalValue_append, decimalValue_zeros, zero, Nat.mul_zero,
      Nat.mul_zero, Nat.zero_add, Nat.zero_add, List.length_append, List.length_replicate, places]

theorem write_within (hd : AllDigits digits) (least : -2 ≤ e) (fraction : e < 0)
    (large : 0 < e + digits.length) (most : e + digits.length ≤ 16) : ∃ whole places,
    (layout.write digits (e + digits.length - 1)).toList = whole ++ '.' :: places ∧
      Pointed (decimalValue digits * 10 ^ (e + 2).toNat) whole places := by
  obtain ⟨front, power⟩ : ∃ front : Nat, e + digits.length = front :=
    ⟨(e + digits.length).toNat, by omega⟩
  have none : front - digits.length = 0 := by omega
  rw [power, toList_write_from_one (by omega) (by omega), if_pos (by omega), none,
    List.replicate_zero, List.append_nil]
  refine ⟨_, _, rfl, ?_, ?_, ?_, ?_⟩
  · exact List.ne_nil_of_length_pos (by rw [List.length_take]; omega)
  · rwa [List.take_append_drop]
  · rw [List.length_drop]
    omega
  · rw [List.take_append_drop, List.length_drop]
    congr 2
    omega

theorem write_whole (hd : AllDigits digits) (ne : digits ≠ []) (natural : 0 ≤ e)
    (most : e + digits.length ≤ 16) : ∃ whole places,
    (layout.write digits (e + digits.length - 1)).toList = whole ++ '.' :: places ∧
      Pointed (decimalValue digits * 10 ^ (e + 2).toNat) whole places := by
  have some := List.length_pos_iff.mpr ne
  obtain ⟨zeros, rfl⟩ := Int.eq_ofNat_of_zero_le natural
  have power : (zeros + digits.length : Int) = (zeros + digits.length : Nat) := by omega
  rw [power, toList_write_from_one (by omega) (by omega), if_neg (by omega), Nat.add_sub_cancel,
    List.take_of_length_le (by omega)]
  refine ⟨_, _, rfl, by simp [ne], ?_, .inl rfl, ?_⟩
  · exact List.forall_mem_append.mpr
      ⟨List.forall_mem_append.mpr ⟨hd, allDigits_zeros _⟩, by decide⟩
  · have zero : decimalValue ['0'] = 0 := by decide
    have places : ((zeros : Int) + 2).toNat = zeros + 2 := by omega
    rw [decimalValue_append, decimalValue_append, decimalValue_zeros, zero, places,
      List.length_replicate, List.length_singleton, Nat.pow_add]
    ring

end

theorem pointed_text (least : -2 ≤ x.exponent)
    (most : x.exponent + (Nat.toDigits 10 x.digits).length ≤ 16) : ∃ whole places,
    x.text.toList = (if x.negative then ['-'] else []) ++ (whole ++ '.' :: places) ∧
      Pointed x.hundredths whole places := by
  have written : ∃ whole places,
      (layout.write (Nat.toDigits 10 x.digits)
        (x.exponent + (Nat.toDigits 10 x.digits).length - 1)).toList = whole ++ '.' :: places ∧
      Pointed x.hundredths whole places := by
    have digits := allDigits_toDigits x.digits
    have value : x.hundredths =
        decimalValue (Nat.toDigits 10 x.digits) * 10 ^ (x.exponent + 2).toNat := by
      rw [decimalValue_toDigits, Decimal.hundredths]
    rw [value]
    by_cases small : x.exponent + (Nat.toDigits 10 x.digits).length ≤ 0
    · exact write_below_one digits Nat.toDigits_ne_nil least small
    · by_cases fraction : x.exponent < 0
      · exact write_within digits least fraction (by omega) most
      · exact write_whole digits Nat.toDigits_ne_nil (by omega) most
  obtain ⟨whole, places, eq, pointed⟩ := written
  refine ⟨whole, places, ?_, pointed⟩
  rw [Decimal.text, String.toList_append, eq]
  cases x.negative <;> rfl

theorem read?_of_pointed (negative : Bool) {n : Nat} {whole places : List Char}
    (h : Pointed n whole places) :
    read? ((if negative then ['-'] else []) ++ (whole ++ '.' :: places)) =
      some (nearest negative n 100) := by
  obtain ⟨digits, behind⟩ := List.forall_mem_append.mp h.digits
  have sign : IsSign (if negative then ['-'] else []) := by
    cases negative
    · exact .none
    · exact .minus
  have written : ∃ c ∈ whole ++ '.' :: places, c.isDigit = true := by
    obtain ⟨c, mem⟩ := List.exists_mem_of_ne_nil whole h.nonempty
    exact ⟨c, List.mem_append_left _ mem, digits c mem⟩
  have read := read?_numeral (e := 0) sign digits (.point behind) .none written rfl
  have minus : decide ((if negative then ['-'] else []) = ['-']) = negative := by
    cases negative <;> rfl
  have short := h.short
  rw [List.append_nil, minus, List.drop_one, List.tail_cons, toFloat_hundredths] at read
  · have places : (0 - (places.length : Int) + 2).toNat = 2 - places.length := by omega
    rw [read, Decimal.hundredths, places, h.hundredths]
  · dsimp only
    omega
  · dsimp only
    omega

end Sidekick.Number
