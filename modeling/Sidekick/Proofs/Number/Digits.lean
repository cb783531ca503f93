import Mathlib.Data.List.Induction
import Mathlib.Data.Nat.Digits.Defs
import Sidekick.Proofs.Number.Numeral

namespace Sidekick.Number
open Text

theorem decimalValue_concat (s : List Char) (c : Char) :
    decimalValue (s ++ [c]) = 10 * decimalValue s + (digitValue? c).getD 0 := by
  rw [decimalValue, List.foldl_append]
  rfl

theorem decimalValue_append (s t : List Char) :
    decimalValue (s ++ t) = 10 ^ t.length * decimalValue s + decimalValue t := by
  induction t using List.reverseRecOn with
  | nil => simp [decimalValue]
  | append_singleton t c ih =>
      rw [← List.append_assoc, decimalValue_concat, decimalValue_concat, ih, List.length_append,
        List.length_singleton, Nat.pow_succ]
      lia

theorem decimalValue_zeros (n : Nat) : decimalValue (List.replicate n '0') = 0 := by
  induction n with
  | zero => rfl
  | succ n ih =>
      rw [List.replicate_succ', decimalValue_concat, ih]
      decide

theorem digitValue?_lt {c : Char} {d : Nat} (h : digitValue? c = some d) : d < 10 := by
  obtain ⟨first, -, rfl⟩ := Option.map_eq_some_iff.mp h
  exact Nat.mod_lt _ (by decide)

theorem decimalValue_lt (s : List Char) : decimalValue s < 10 ^ s.length := by
  induction s using List.reverseRecOn with
  | nil => decide
  | append_singleton s c ih =>
      have digit : (digitValue? c).getD 0 < 10 := by
        cases value : digitValue? c with
        | none => decide
        | some d => exact digitValue?_lt value
      rw [decimalValue_concat, List.length_append, List.length_singleton, Nat.pow_succ]
      omega

theorem isDigit_plainDigit {c : Char} (h : isDecimalDigit c = true) :
    (plainDigit c).isDigit = true := by
  obtain ⟨d, value⟩ := Option.isSome_iff_exists.mp h
  have all : ∀ d < 10, (Nat.digitChar d).isDigit = true := by decide
  rw [plainDigit, value]
  exact all d (digitValue?_lt value)

theorem isSome_read?_digits {sign digits : List Char} (hs : IsSign sign)
    (hd : ∀ c ∈ digits, isDecimalDigit c = true) (ne : digits ≠ []) :
    (read? (sign ++ digits)).isSome = true := by
  have plain : AllDigits (digits.map plainDigit) :=
    List.forall_mem_map.mpr fun c hc => isDigit_plainDigit (hd c hc)
  have same : read? (sign ++ digits) = read? (sign ++ (digits.map plainDigit ++ ([] ++ []))) := by
    have once : (digits.map plainDigit).map plainDigit = digits.map plainDigit :=
      map_plainDigit fun c hc => mem_numeralChars_of_isDigit (plain c hc)
    rw [read?, read?]
    simp only [List.map_append, List.append_nil, once]
  obtain ⟨c, hc⟩ := List.exists_mem_of_ne_nil digits ne
  have written : plainDigit c ∈ digits.map plainDigit ++ [] := by
    simpa using ⟨c, hc, rfl⟩
  rw [same]
  exact isSome_read?_numeral hs plain .none .none ⟨_, written, isDigit_plainDigit (hd c hc)⟩

theorem digitValue?_of_isDigit {c : Char} (h : c.isDigit = true) :
    digitValue? c = some (c.toNat - '0'.toNat) := by
  have all : ∀ c ∈ "0123456789".toList, digitValue? c = some (c.toNat - '0'.toNat) := by decide
  exact all c (mem_digits h)

theorem isDecimalDigit_of_isDigit {c : Char} (h : c.isDigit = true) : isDecimalDigit c = true := by
  rw [isDecimalDigit, digitValue?_of_isDigit h]
  rfl

theorem decimalValue_eq_ofDigitChars {s : List Char} (h : AllDigits s) :
    decimalValue s = Nat.ofDigitChars 10 s 0 := by
  induction s using List.reverseRecOn with
  | nil => rfl
  | append_singleton s c ih =>
      obtain ⟨digits, last⟩ := List.forall_mem_append.mp h
      rw [decimalValue_concat, ih digits, digitValue?_of_isDigit (last c List.mem_cons_self),
        Nat.ofDigitChars_append]
      rfl

theorem allDigits_toDigits (n : Nat) : AllDigits (Nat.toDigits 10 n) :=
  fun _ hc => Nat.isDigit_of_mem_toDigits (by decide) (by decide) hc

theorem allDigits_zeros (n : Nat) : AllDigits (List.replicate n '0') := by
  intro c hc
  rw [(List.mem_replicate.mp hc).2]
  decide

theorem decimalValue_toDigits (n : Nat) : decimalValue (Nat.toDigits 10 n) = n := by
  rw [decimalValue_eq_ofDigitChars (allDigits_toDigits n)]
  exact Nat.ofDigitChars_toDigits (by decide) (by decide)

end Sidekick.Number
