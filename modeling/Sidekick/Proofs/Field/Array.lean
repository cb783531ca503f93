import Sidekick.Proofs.Field.Brackets
import Sidekick.Proofs.Number.Digits

namespace Sidekick.Field
open Text Number

inductive Listed : List (List Char) → List Char → Prop
  | none {b : List Char} : Blanks b → Listed [] b
  | last {t b c : List Char} : Blanks b → Blanks c → Listed [t] (b ++ (t ++ c))
  | more {t u b c s : List Char} {ts : List (List Char)} : Blanks b → Blanks c →
      Listed (u :: ts) s → Listed (t :: u :: ts) (b ++ (t ++ (c ++ ',' :: s)))

def quoted (e : List Encoded) : List Char := '\x22' :: (encodedText e ++ ['\x22'])

def IsCell (t : List Char) : Prop := ∀ c ∈ t, isBlank c = false ∧ c ≠ ','

def nullText : List Char := "null".toList

def IsNumberCell (t : List Char) : Prop :=
  t = nullText ∨ (∀ c ∈ t, c ∈ numeralChars) ∧ (read? t).isSome = true

instance (t : List Char) : Decidable (IsNumberCell t) := inferInstanceAs (Decidable (_ ∨ _))

def IsIntegerCell (t : List Char) : Prop :=
  t = nullText ∨ ∃ sign digits, IsSign sign ∧ AllDigits digits ∧ digits ≠ [] ∧
    digits.length ≤ maxDigits ∧ t = sign ++ digits

def integer? (t : List Char) : Option Int := if isInteger t then (integer t).toOption else none

theorem isCell_nullText : IsCell nullText := by
  unfold IsCell
  decide

theorem isCell_of_numeralChars {t : List Char} (h : ∀ c ∈ t, c ∈ numeralChars) : IsCell t := by
  have all : ∀ c ∈ numeralChars, isBlank c = false ∧ c ≠ ',' := by decide
  exact fun c hc => all c (h c hc)

theorem IsNumberCell.isCell {t : List Char} (h : IsNumberCell t) : IsCell t := by
  rcases h with rfl | ⟨plain, -⟩
  · exact isCell_nullText
  · exact isCell_of_numeralChars plain

theorem IsIntegerCell.isCell {t : List Char} (h : IsIntegerCell t) : IsCell t := by
  rcases h with rfl | ⟨sign, digits, hs, hd, -, -, rfl⟩
  · exact isCell_nullText
  · apply isCell_of_numeralChars
    intro c hc
    rcases List.mem_append.mp hc with hc | hc
    · exact mem_numeralChars_of_isSign hs c hc
    · exact mem_numeralChars_of_isDigit (hd c hc)

theorem comma_not_mem_of_blanks {b : List Char} (h : Blanks b) : ',' ∉ b := by
  intro comma
  exact absurd (h ',' comma) (by decide)

theorem comma_not_mem_cell {t b c : List Char} (hb : Blanks b) (ht : IsCell t) (hc : Blanks c) :
    ',' ∉ b ++ (t ++ c) := by
  simp only [List.mem_append, not_or]
  exact ⟨comma_not_mem_of_blanks hb, fun comma => (ht ',' comma).2 rfl, comma_not_mem_of_blanks hc⟩

theorem trim_cell {t b c : List Char} (hb : Blanks b) (ht : IsCell t) (hc : Blanks c) :
    trim (b ++ (t ++ c)) = t :=
  trim_of_no_blank hb (fun x hx => (ht x hx).1) hc

theorem elements_listed {ts : List (List Char)} {s : List Char} (h : Listed ts s)
    (cells : ∀ t ∈ ts, IsCell t) : elements s = ts ∨ ts = [] ∧ elements s = [[]] := by
  induction h with
  | @none b hb =>
      have empty := trim_cell (t := []) (c := []) hb (by simp [IsCell]) (by simp [Blanks])
      rw [List.append_nil, List.append_nil] at empty
      right
      rw [elements, splitAt_of_not_mem (comma_not_mem_of_blanks hb), List.map_singleton, empty]
      exact ⟨rfl, rfl⟩
  | @last t b c hb hc =>
      have cell := cells t List.mem_cons_self
      left
      rw [elements, splitAt_of_not_mem (comma_not_mem_cell hb cell hc), List.map_singleton,
        trim_cell hb cell hc]
  | @more t u b c s ts hb hc _ ih =>
      have cell := cells t List.mem_cons_self
      have split := splitAt_append ',' (b ++ (t ++ c)) s
      rw [splitAt_of_not_mem (comma_not_mem_cell hb cell hc)] at split
      have rest := ih fun v hv => cells v (List.mem_cons_of_mem _ hv)
      simp only [List.append_assoc] at split
      left
      rcases rest with rest | ⟨absent, -⟩
      · rw [elements, split, List.map_append, List.map_singleton, trim_cell hb cell hc, ← elements,
          rest, List.singleton_append]
      · cases absent

theorem takeSign_digits {sign digits : List Char} (hs : IsSign sign)
    (hd : ∀ c ∈ digits, isDecimalDigit c = true) :
    takeSign (sign ++ digits) = (decide (sign = ['-']), digits) := by
  apply takeSign_append hs
  intro c hc
  have digit := hd c (List.mem_of_mem_head? hc)
  have signs : isDecimalDigit '-' = false ∧ isDecimalDigit '+' = false := by decide
  simp only [isSignChar, Bool.or_eq_false_iff, beq_eq_false_iff_ne]
  constructor <;> rintro rfl <;> simp [signs] at digit

theorem isInteger_iff {t : List Char} : isInteger t = true ↔
    ∃ sign digits, IsSign sign ∧ digits ≠ [] ∧ (∀ c ∈ digits, isDecimalDigit c = true) ∧
      t = sign ++ digits := by
  constructor
  · intro counts
    rw [isInteger, Bool.and_eq_true, List.all_eq_true] at counts
    obtain ⟨ne, digits⟩ := counts
    have parts : ∃ sign, IsSign sign ∧ t = sign ++ (takeSign t).2 := by
      unfold takeSign
      split
      · exact ⟨['-'], .minus, rfl⟩
      · exact ⟨['+'], .plus, rfl⟩
      · exact ⟨[], .none, rfl⟩
    obtain ⟨sign, hs, eq⟩ := parts
    exact ⟨sign, _, hs, by simpa using ne, digits, eq⟩
  · rintro ⟨sign, digits, hs, ne, hd, rfl⟩
    simpa [isInteger, takeSign_digits hs hd, ne] using hd

theorem integer_digits {sign digits : List Char} (hs : IsSign sign)
    (hd : ∀ c ∈ digits, isDecimalDigit c = true) : integer (sign ++ digits) =
      if maxDigits < digits.length then .error (.tooManyDigits digits.length)
      else .ok (signed (decide (sign = ['-'])) (decimalValue digits)) := by
  rw [integer, takeSign_digits hs hd]

theorem isInteger_plain {sign digits : List Char} (hs : IsSign sign) (hd : AllDigits digits)
    (ne : digits ≠ []) : isInteger (sign ++ digits) = true :=
  isInteger_iff.mpr ⟨sign, digits, hs, ne, fun c hc => isDecimalDigit_of_isDigit (hd c hc), rfl⟩

theorem integer_plain {sign digits : List Char} (hs : IsSign sign) (hd : AllDigits digits)
    (short : digits.length ≤ maxDigits) :
    integer (sign ++ digits) = .ok (signed (decide (sign = ['-'])) (decimalValue digits)) := by
  rw [integer_digits hs fun c hc => isDecimalDigit_of_isDigit (hd c hc),
    if_neg (Nat.not_lt.mpr short)]

theorem IsIntegerCell.readable {t : List Char} (h : IsIntegerCell t) (counts : isInteger t = true) :
    ∃ n, integer t = .ok n := by
  rcases h with rfl | ⟨sign, digits, hs, hd, ne, short, rfl⟩
  · exact absurd counts (by decide)
  · exact ⟨_, integer_plain hs hd short⟩

theorem mapM_integer {ts : List (List Char)}
    (readable : ∀ t ∈ ts, isInteger t = true → ∃ n, integer t = .ok n) :
    (ts.filter isInteger).mapM integer = .ok (ts.filterMap integer?) := by
  induction ts with
  | nil => rfl
  | cons t ts ih =>
      obtain ⟨first, later⟩ := List.forall_mem_cons.mp readable
      have rest := ih later
      by_cases counts : isInteger t = true
      · obtain ⟨n, read⟩ := first counts
        have some : integer? t = some n := by rw [integer?, if_pos counts, read]; rfl
        rw [List.filter_cons_of_pos counts, List.filterMap_cons_some some, List.mapM_cons, read,
          rest]
        rfl
      · have none : integer? t = none := if_neg counts
        rw [List.filter_cons_of_neg counts, List.filterMap_cons_none none, rest]

def HoldsElements (document field : List Char) (ts : List (List Char)) : Prop :=
  ∃ s, HoldsArray document field s ∧ Listed ts s

theorem numbers?_of_cells {document field : List Char} {ts : List (List Char)}
    (h : HoldsElements document field ts) (cells : ∀ t ∈ ts, IsCell t) :
    numbers? document field = some (ts.filterMap read?) := by
  obtain ⟨s, held, listed⟩ := h
  rw [numbers?, array?_eq_some held, Option.map_some]
  rcases elements_listed listed cells with found | ⟨rfl, found⟩
  · rw [found]
  · rw [found]
    rfl

theorem integers?_of_cells {document field : List Char} {ts : List (List Char)}
    (h : HoldsElements document field ts) (cells : ∀ t ∈ ts, IsCell t)
    (readable : ∀ t ∈ ts, isInteger t = true → ∃ n, integer t = .ok n) :
    integers? document field = .ok (some (ts.filterMap integer?)) := by
  obtain ⟨s, held, listed⟩ := h
  simp only [integers?, array?_eq_some held]
  rcases elements_listed listed cells with found | ⟨rfl, found⟩
  · rw [found, mapM_integer readable]
    rfl
  · rw [found]
    rfl

theorem numbers?_eq_some {document field : List Char} {ts : List (List Char)}
    (h : HoldsElements document field ts) (cells : ∀ t ∈ ts, IsNumberCell t) :
    numbers? document field = some (ts.filterMap read?) :=
  numbers?_of_cells h fun t ht => (cells t ht).isCell

theorem integers?_eq_ok {document field : List Char} {ts : List (List Char)}
    (h : HoldsElements document field ts) (cells : ∀ t ∈ ts, IsIntegerCell t) :
    integers? document field = .ok (some (ts.filterMap integer?)) :=
  integers?_of_cells h (fun t ht => (cells t ht).isCell) fun t ht => (cells t ht).readable

end Sidekick.Field
