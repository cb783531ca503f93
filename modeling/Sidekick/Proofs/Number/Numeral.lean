import Sidekick.Number.Numeral
import Sidekick.Proofs.Text.Runs

namespace Sidekick.Number
open Text

def AllDigits (s : List Char) : Prop := ∀ c ∈ s, c.isDigit = true

instance (s : List Char) : Decidable (AllDigits s) :=
  inferInstanceAs (Decidable (∀ c ∈ s, c.isDigit = true))

inductive IsSign : List Char → Prop
  | none : IsSign []
  | minus : IsSign ['-']
  | plus : IsSign ['+']

inductive IsFraction : List Char → Prop
  | none : IsFraction []
  | point {ds : List Char} : AllDigits ds → IsFraction ('.' :: ds)

inductive IsExponent : List Char → Prop
  | none : IsExponent []
  | mark {c : Char} {sign ds : List Char} : c = 'e' ∨ c = 'E' → IsSign sign → ds ≠ [] →
      AllDigits ds → IsExponent (c :: (sign ++ ds))

def numeralChars : List Char := "0123456789.-+eE".toList

theorem mem_digits {c : Char} (h : c.isDigit = true) : c ∈ "0123456789".toList := by
  have all : ∀ k : Fin 10, Char.ofNat (48 + k.val) ∈ "0123456789".toList := by decide
  simp only [Char.isDigit, Bool.and_eq_true, decide_eq_true_eq] at h
  have low : 48 ≤ c.toNat := h.1
  have high : c.toNat ≤ 57 := h.2
  have found := all ⟨c.toNat - 48, by omega⟩
  rwa [show 48 + (c.toNat - 48) = c.toNat by omega, Char.ofNat_toNat] at found

theorem mem_numeralChars_of_isDigit {c : Char} (h : c.isDigit = true) : c ∈ numeralChars := by
  have all : ∀ c ∈ "0123456789".toList, c ∈ numeralChars := by decide
  exact all c (mem_digits h)

theorem mem_numeralChars_of_isSign {s : List Char} (h : IsSign s) : ∀ c ∈ s, c ∈ numeralChars := by
  cases h <;> decide

theorem mem_numeralChars_of_isFraction {s : List Char} (h : IsFraction s) :
    ∀ c ∈ s, c ∈ numeralChars := by
  cases h with
  | none => simp
  | point digits =>
      intro c hc
      rcases List.mem_cons.mp hc with rfl | hc
      · decide
      · exact mem_numeralChars_of_isDigit (digits c hc)

theorem mem_numeralChars_of_isExponent {s : List Char} (h : IsExponent s) :
    ∀ c ∈ s, c ∈ numeralChars := by
  cases h with
  | none => simp
  | mark letter sign _ digits =>
      intro c hc
      rcases List.mem_cons.mp hc with rfl | hc
      · rcases letter with rfl | rfl <;> decide
      · rcases List.mem_append.mp hc with hc | hc
        · exact mem_numeralChars_of_isSign sign c hc
        · exact mem_numeralChars_of_isDigit (digits c hc)

theorem map_plainDigit {s : List Char} (h : ∀ c ∈ s, c ∈ numeralChars) :
    s.map plainDigit = s := by
  have all : ∀ c ∈ numeralChars, plainDigit c = c := by decide
  calc s.map plainDigit = s.map id := List.map_congr_left fun c hc => all c (h c hc)
    _ = s := List.map_id s

theorem ungroup_of_not_mem (isDigit : Char → Bool) {s : List Char} (h : '_' ∉ s) {c : Char}
    (hc : c ≠ '_') : ungroup isDigit c s = some s := by
  induction s generalizing c with
  | nil => simp [ungroup, hc]
  | cons d s ih =>
      have hd : d ≠ '_' := fun eq => h (eq ▸ List.mem_cons_self)
      have rest := ih (fun mem => h (List.mem_cons_of_mem _ mem)) hd
      simp [ungroup, hd, hc, rest]

def isSignChar (c : Char) : Bool := c == '-' || c == '+'

theorem takeSign_append {sign body : List Char} (h : IsSign sign) (stops : Stops isSignChar body) :
    takeSign (sign ++ body) = (decide (sign = ['-']), body) := by
  cases h with
  | minus => rfl
  | plus => rfl
  | none =>
      cases body with
      | nil => rfl
      | cons c body =>
          have other := stops c rfl
          simp only [isSignChar, Bool.or_eq_false_iff, beq_eq_false_iff_ne] at other
          rw [List.nil_append, takeSign]
          · rfl
          · rintro _ eq
            exact other.1 (List.cons.inj eq).1
          · rintro _ eq
            exact other.2 (List.cons.inj eq).1

theorem stops_isSignChar_of_digits {s rest : List Char} (digits : AllDigits s) (ne : s ≠ []) :
    Stops isSignChar (s ++ rest) := by
  cases s with
  | nil => exact absurd rfl ne
  | cons c s =>
      have all : ∀ c ∈ "0123456789".toList, isSignChar c = false := by decide
      exact stops_cons (all c (mem_digits (digits c List.mem_cons_self))) _

theorem digits?_of_allDigits {s : List Char} (digits : AllDigits s) (ne : s ≠ []) :
    digits? s = some (decimalValue s) := by
  have all : s.all Char.isDigit = true := List.all_eq_true.mpr digits
  simp [digits?, ne, all]

theorem exponent?_mark {c : Char} {sign ds : List Char} (letter : c = 'e' ∨ c = 'E')
    (hs : IsSign sign) (ne : ds ≠ []) (digits : AllDigits ds) :
    exponent? (c :: (sign ++ ds)) = some (signed (decide (sign = ['-'])) (decimalValue ds)) := by
  have stops : Stops isSignChar ds := by
    rw [← List.append_nil ds]
    exact stops_isSignChar_of_digits digits ne
  simp only [exponent?, letter, if_true, takeSign_append hs stops, digits?_of_allDigits digits ne,
    Option.map_some]

theorem exists_exponent {s : List Char} (h : IsExponent s) : ∃ e, exponent? s = some e := by
  cases h with
  | none => exact ⟨0, rfl⟩
  | mark letter hs ne digits => exact ⟨_, exponent?_mark letter hs ne digits⟩

theorem stops_isDigit_of_isExponent {s : List Char} (h : IsExponent s) : Stops Char.isDigit s := by
  cases h with
  | none => exact stops_nil _
  | mark letter => rcases letter with rfl | rfl <;> exact stops_cons (by decide) _

theorem stops_isDigit_append {fraction rest : List Char} (h : IsFraction fraction)
    (stops : Stops Char.isDigit rest) : Stops Char.isDigit (fraction ++ rest) := by
  cases h with
  | none => exact stops
  | point => exact stops_cons (by decide) _

theorem unsigned?_plain (negative : Bool) {whole fraction exponent : List Char} {e : Int}
    (hw : AllDigits whole) (hf : IsFraction fraction) (he : IsExponent exponent)
    (written : ∃ c ∈ whole ++ fraction, c.isDigit = true) (power : exponent? exponent = some e) :
    unsigned? negative (whole ++ (fraction ++ exponent)) =
      some ⟨negative, decimalValue (whole ++ fraction.drop 1), e - (fraction.drop 1).length⟩ := by
  have stops := stops_isDigit_append hf (stops_isDigit_of_isExponent he)
  rw [unsigned?, takeWhile_run hw stops, dropWhile_run hw stops]
  cases hf with
  | none =>
      have ne : whole ≠ [] := by
        rintro rfl
        obtain ⟨c, hc, -⟩ := written
        cases hc
      cases he with
      | none => simpa [ne] using power
      | mark letter => rcases letter with rfl | rfl <;> simp [ne, power]
  | @point ds digits =>
      have ne : ¬ (whole = [] ∧ ds = []) := by
        rintro ⟨rfl, rfl⟩
        obtain ⟨c, hc, hd⟩ := written
        obtain rfl := List.mem_singleton.mp hc
        exact absurd hd (by decide)
      have after := stops_isDigit_of_isExponent he
      simp only [List.cons_append, takeWhile_run digits after, dropWhile_run digits after,
        List.isEmpty_iff, ne, if_false, power, Option.map_some, List.drop_one, List.tail_cons]

theorem mem_firstChars {whole fraction : List Char} (rest : List Char) (hw : AllDigits whole)
    (hf : IsFraction fraction) (written : ∃ c ∈ whole ++ fraction, c.isDigit = true) :
    ∃ c s, whole ++ (fraction ++ rest) = c :: s ∧ c ∈ "0123456789.".toList := by
  have all : ∀ c ∈ "0123456789".toList, c ∈ "0123456789.".toList := by decide
  cases whole with
  | cons c whole => exact ⟨c, _, rfl, all c (mem_digits (hw c List.mem_cons_self))⟩
  | nil =>
      cases hf with
      | none =>
          obtain ⟨c, hc, -⟩ := written
          cases hc
      | point => exact ⟨'.', _, rfl, by decide⟩

theorem read?_numeral {sign whole fraction exponent : List Char} {e : Int} (hs : IsSign sign)
    (hw : AllDigits whole) (hf : IsFraction fraction) (he : IsExponent exponent)
    (written : ∃ c ∈ whole ++ fraction, c.isDigit = true) (power : exponent? exponent = some e) :
    read? (sign ++ (whole ++ (fraction ++ exponent))) =
      some (Decimal.toFloat ⟨decide (sign = ['-']), decimalValue (whole ++ fraction.drop 1),
        e - (fraction.drop 1).length⟩) := by
  have plain : ∀ c ∈ sign ++ (whole ++ (fraction ++ exponent)), c ∈ numeralChars := by
    intro c hc
    simp only [List.mem_append] at hc
    rcases hc with hc | hc | hc | hc
    · exact mem_numeralChars_of_isSign hs c hc
    · exact mem_numeralChars_of_isDigit (hw c hc)
    · exact mem_numeralChars_of_isFraction hf c hc
    · exact mem_numeralChars_of_isExponent he c hc
  have grouped := ungroup_of_not_mem Char.isDigit (fun mem => absurd (plain '_' mem) (by decide))
    (show ' ' ≠ '_' by decide)
  have readable := unsigned?_plain (decide (sign = ['-'])) hw hf he written power
  obtain ⟨c, body, start, first⟩ := mem_firstChars exponent hw hf written
  rw [start] at plain grouped readable ⊢
  have figure : ∀ c ∈ "0123456789.".toList,
      isSignChar c = false ∧ c.toLower ≠ 'i' ∧ c.toLower ≠ 'n' := by decide
  obtain ⟨unsigned, hi, hn⟩ := figure c first
  have finite : ¬ ((c :: body).map Char.toLower = "inf".toList ∨
      (c :: body).map Char.toLower = "infinity".toList) := by
    rintro (eq | eq)
    · exact hi (List.cons.inj eq).1
    · exact hi (List.cons.inj eq).1
  have number : ¬ (c :: body).map Char.toLower = "nan".toList := fun eq => hn (List.cons.inj eq).1
  rw [read?, map_plainDigit plain, grouped]
  simp only [Option.bind_eq_bind, Option.bind_some, takeSign_append hs (stops_cons unsigned body),
    if_neg finite, if_neg number, readable, Option.map_some]

theorem isSome_read?_numeral {sign whole fraction exponent : List Char} (hs : IsSign sign)
    (hw : AllDigits whole) (hf : IsFraction fraction) (he : IsExponent exponent)
    (written : ∃ c ∈ whole ++ fraction, c.isDigit = true) :
    (read? (sign ++ (whole ++ (fraction ++ exponent)))).isSome = true := by
  obtain ⟨e, power⟩ := exists_exponent he
  rw [read?_numeral hs hw hf he written power]
  rfl

end Sidekick.Number
