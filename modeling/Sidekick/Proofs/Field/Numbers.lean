import Mathlib.Data.List.Basic
import Sidekick.Proofs.Field.Own
import Sidekick.Proofs.Field.Reach
import Sidekick.Proofs.Number.Digits

namespace Sidekick.Field
open Text Number

/-! ## Literals -/

structure Exponent where
  letter : Char
  sign : List Char
  digits : List Char
  isLetter : letter = 'e' ∨ letter = 'E'
  isSign : IsSign sign
  ne_nil : digits ≠ []
  allDigits : AllDigits digits

namespace Exponent

def text (e : Exponent) : List Char := e.letter :: (e.sign ++ e.digits)

def value (e : Exponent) : Int := signed (e.sign = ['-']) (Nat.ofDigitChars 10 e.digits 0)

theorem isExponent (e : Exponent) : IsExponent e.text :=
  .mark e.isLetter e.isSign e.ne_nil e.allDigits

theorem exponent?_text (e : Exponent) : exponent? e.text = some e.value := by
  rw [text, exponent?_mark e.isLetter e.isSign e.ne_nil e.allDigits,
    decimalValue_eq_ofDigitChars e.allDigits, value]

end Exponent

/-- A number in its parts. There is a point just if digits stand behind it. -/
structure Literal where
  negative : Bool
  whole : List Char
  fraction : List Char
  exponent : Option Exponent
  ne_nil : whole ≠ []
  wholeDigits : AllDigits whole
  fractionDigits : AllDigits fraction

namespace Literal

def minus (l : Literal) : List Char := if l.negative then ['-'] else []

def fractionText (l : Literal) : List Char := if l.fraction = [] then [] else '.' :: l.fraction

def exponentText (l : Literal) : List Char := l.exponent.elim [] Exponent.text

def text (l : Literal) : List Char :=
  l.minus ++ (l.whole ++ (l.fractionText ++ l.exponentText))

def decimal (l : Literal) : Decimal :=
  ⟨l.negative, Nat.ofDigitChars 10 (l.whole ++ l.fraction) 0,
    l.exponent.elim 0 Exponent.value - l.fraction.length⟩

def IsInteger (l : Literal) : Prop := l.fraction = [] ∧ l.exponent.isNone = true

instance (l : Literal) : Decidable l.IsInteger := inferInstanceAs (Decidable (_ ∧ _))

def integer (l : Literal) : Int := signed l.negative (Nat.ofDigitChars 10 l.whole 0)

variable (l : Literal)

theorem isSign_minus : IsSign l.minus := by
  rw [minus]
  split
  · exact .minus
  · exact .none

theorem decide_minus : decide (l.minus = ['-']) = l.negative := by
  cases h : l.negative <;> simp [minus, h]

theorem isFraction_text : IsFraction l.fractionText := by
  rw [fractionText]
  split
  · exact .none
  · exact .point l.fractionDigits

theorem drop_fractionText : l.fractionText.drop 1 = l.fraction := by
  rw [fractionText]
  split
  · next none => simp [none]
  · rfl

theorem isExponent_text : IsExponent l.exponentText := by
  rw [exponentText]
  cases l.exponent with
  | none => exact .none
  | some e => exact e.isExponent

theorem exponent?_text : exponent? l.exponentText = some (l.exponent.elim 0 Exponent.value) := by
  rw [exponentText]
  cases l.exponent with
  | none => rfl
  | some e => exact e.exponent?_text

theorem exists_digit : ∃ c ∈ l.whole ++ l.fractionText, c.isDigit = true := by
  obtain ⟨c, hc⟩ := List.exists_mem_of_ne_nil _ l.ne_nil
  exact ⟨c, List.mem_append_left _ hc, l.wholeDigits c hc⟩

theorem read?_text : read? l.text = some l.decimal.toFloat := by
  have digits : AllDigits (l.whole ++ l.fraction) :=
    List.forall_mem_append.mpr ⟨l.wholeDigits, l.fractionDigits⟩
  rw [text, read?_numeral l.isSign_minus l.wholeDigits l.isFraction_text l.isExponent_text
    l.exists_digit l.exponent?_text, decide_minus, drop_fractionText,
    decimalValue_eq_ofDigitChars digits, decimal]

theorem mem_numeralChars : ∀ c ∈ l.text, c ∈ numeralChars := by
  intro c hc
  simp only [text, List.mem_append] at hc
  rcases hc with hc | hc | hc | hc
  · exact mem_numeralChars_of_isSign l.isSign_minus c hc
  · exact mem_numeralChars_of_isDigit (l.wholeDigits c hc)
  · exact mem_numeralChars_of_isFraction l.isFraction_text c hc
  · exact mem_numeralChars_of_isExponent l.isExponent_text c hc

theorem text_of_isInteger (h : l.IsInteger) : l.text = l.minus ++ l.whole := by
  rw [text, fractionText, exponentText, if_pos h.1, Option.isNone_iff_eq_none.mp h.2]
  simp

theorem isInteger_text_iff : isInteger l.text = true ↔ l.IsInteger := by
  constructor
  · intro counts
    have stops : Stops isSignChar (l.whole ++ (l.fractionText ++ l.exponentText)) :=
      stops_isSignChar_of_digits l.wholeDigits l.ne_nil
    rw [isInteger, text, takeSign_append l.isSign_minus stops, Bool.and_eq_true,
      List.all_eq_true] at counts
    have figures (c : Char) (hc : c ∈ l.fractionText ++ l.exponentText) :
        isDecimalDigit c = true := counts.2 c (List.mem_append_right _ hc)
    constructor
    · by_cases point : l.fraction = []
      · exact point
      · refine absurd (figures '.' (List.mem_append_left _ ?_)) (by decide)
        rw [fractionText, if_neg point]
        exact List.mem_cons_self
    · cases power : l.exponent with
      | none => rfl
      | some e =>
          have letter := figures e.letter (List.mem_append_right _ (by
            rw [exponentText, power]
            exact List.mem_cons_self))
          rcases e.isLetter with eq | eq <;> rw [eq] at letter <;> exact absurd letter (by decide)
  · intro h
    rw [l.text_of_isInteger h]
    exact isInteger_plain l.isSign_minus l.wholeDigits l.ne_nil

theorem integer_text (h : l.IsInteger) (short : l.whole.length ≤ maxDigits) :
    Field.integer l.text = .ok l.integer := by
  rw [l.text_of_isInteger h, integer_plain l.isSign_minus l.wholeDigits short,
    decide_minus, decimalValue_eq_ofDigitChars l.wholeDigits, integer]

end Literal

/-! ## Elements -/

inductive Scalar where
  | number (l : Literal)
  | bool (b : Bool)
  | null

namespace Scalar

def written : Scalar → List Char
  | number l => l.text
  | bool b => if b then "true".toList else "false".toList
  | null => nullText

def float? : Scalar → Option Float
  | number l => some l.decimal.toFloat
  | _ => none

def integer? : Scalar → Option Int
  | number l => if l.IsInteger then some l.integer else none
  | _ => none

def Short : Scalar → Prop
  | number l => l.IsInteger → l.whole.length ≤ maxDigits
  | _ => True

theorem read?_written (e : Scalar) : read? e.written = e.float? := by
  cases e with
  | number l => exact l.read?_text
  | bool b => cases b <;> decide +kernel
  | null => decide +kernel

theorem isCell (e : Scalar) : IsCell e.written := by
  cases e with
  | number l => exact isCell_of_numeralChars l.mem_numeralChars
  | bool b => cases b <;> (unfold IsCell; decide)
  | null => exact isCell_nullText

theorem readable {e : Scalar} (short : e.Short) (counts : isInteger e.written = true) :
    ∃ n, Field.integer e.written = .ok n := by
  cases e with
  | number l =>
      have whole := l.isInteger_text_iff.mp counts
      exact ⟨_, l.integer_text whole (short whole)⟩
  | bool b => cases b <;> exact absurd counts (by decide)
  | null => exact absurd counts (by decide)

theorem integer?_written {e : Scalar} (short : e.Short) : Field.integer? e.written = e.integer? := by
  cases e with
  | number l =>
      rw [Field.integer?, written, integer?]
      by_cases whole : l.IsInteger
      · rw [if_pos (l.isInteger_text_iff.mpr whole), if_pos whole,
          l.integer_text whole (short whole)]
        rfl
      · rw [if_neg (mt l.isInteger_text_iff.mp whole), if_neg whole]
  | bool b => cases b <;> decide
  | null => decide

theorem bracket_not_mem (e : Scalar) : ']' ∉ e.written ∧ '[' ∉ e.written := by
  cases e with
  | number l =>
      have all : ∀ c ∈ numeralChars, c ≠ ']' ∧ c ≠ '[' := by decide
      exact ⟨fun mem => (all _ (l.mem_numeralChars _ mem)).1 rfl,
        fun mem => (all _ (l.mem_numeralChars _ mem)).2 rfl⟩
  | bool b => cases b <;> decide
  | null => decide

end Scalar

theorem isSome_read?_of_isInteger {t : List Char} (h : isInteger t = true) :
    (read? t).isSome = true := by
  obtain ⟨sign, digits, hs, ne, hd, rfl⟩ := isInteger_iff.mp h
  exact isSome_read?_digits hs hd ne

/-! ## Documents that end early -/

-- A text that is cut off inside another one ends before its first mark or goes on behind it.
theorem cut_at_mark {c : Char} {r a b : List Char} (absent : c ∉ a) (cut : r <+: a ++ c :: b) :
    c ∉ r ∨ ∃ s, r = a ++ c :: s ∧ s <+: b := by
  induction a generalizing r with
  | nil =>
      cases r with
      | nil => exact .inl (by simp)
      | cons d r =>
          obtain ⟨rfl, later⟩ := List.cons_prefix_cons.mp cut
          exact .inr ⟨r, rfl, later⟩
  | cons d a ih =>
      rw [List.mem_cons, not_or] at absent
      cases r with
      | nil => exact .inl (by simp)
      | cons e r =>
          obtain ⟨rfl, later⟩ := List.cons_prefix_cons.mp cut
          rcases ih absent.2 later with before | ⟨s, rfl, inside⟩
          · exact .inl (by simp [absent.1, before])
          · exact .inr ⟨s, rfl, inside⟩

theorem firstOccurrence_of_cut {key before r s : List Char} (first : FirstOccurrence key before s)
    (cut : r <+: s) : FirstOccurrence key before r := by
  obtain ⟨z, rfl⟩ := cut
  intro x y eq
  apply first x (y ++ z)
  rw [← List.append_assoc, ← List.append_assoc, List.append_assoc before, eq]
  simp

structure ClosesArray (document field inner front after : List Char) : Prop where
  parts : document = front ++ ']' :: after
  start : ∃ before between gap,
    front = before ++ (quotedName field ++ (between ++ ':' :: (gap ++ '[' :: inner))) ∧
    FirstOccurrence (quotedName field) before
      (between ++ ':' :: (gap ++ '[' :: (inner ++ ']' :: after))) ∧ ':' ∉ between ∧ '[' ∉ gap

variable {document field inner front after cut : List Char}

theorem ClosesArray.holdsArray (h : ClosesArray document field inner front after)
    (plain : '[' ∉ inner ∧ ']' ∉ inner) : HoldsArray document field inner := by
  obtain ⟨rfl, before, between, gap, rfl, first, colon, bracket⟩ := h
  refine ⟨gap, after, ⟨before, between, ?_, first, colon⟩, bracket,
    nested_of_not_mem plain.1 plain.2⟩
  simp

-- Nothing is found in what comes before the closing bracket.
theorem ClosesArray.array?_cut (h : ClosesArray document field inner front after)
    (closing : ']' ∉ inner) (early : cut <+: front) : array? cut field = none := by
  obtain ⟨rfl, before, between, gap, rfl, first, colon, bracket⟩ := h
  by_cases named : before ++ quotedName field <+: cut
  · obtain ⟨r, rfl⟩ := named
    rw [List.append_assoc, List.prefix_append_right_inj, List.prefix_append_right_inj] at early
    have name : FirstOccurrence (quotedName field) before r :=
      firstOccurrence_of_cut first (early.trans ⟨']' :: after, by simp⟩)
    rw [List.append_assoc]
    rcases cut_at_mark colon early with none | ⟨s, rfl, later⟩
    · rw [array?, value?, ← quotedName, after?_eq_some name, Option.bind_some,
        after?_eq_none_iff.mpr none]
      rfl
    · have held : Holds (before ++ (quotedName field ++ (between ++ ':' :: s))) field s :=
        ⟨before, between, rfl, name, colon⟩
      rcases cut_at_mark bracket later with none | ⟨t, rfl, ⟨u, rfl⟩⟩
      · rw [array?, value?_eq_some held, Option.bind_some, after?_eq_none_iff.mpr none]
        rfl
      · rw [array?_mark held bracket, isClosed_iff (by decide)]
        rintro ⟨inner, rest, rfl, -⟩
        simp at closing
  · have missing : ¬ quotedName field <:+: cut := by
      rintro ⟨x, y, rfl⟩
      obtain ⟨z, whole⟩ := early
      have le := first x (y ++ (z ++ ']' :: after)) (by
        have eq := congrArg (· ++ ']' :: after) whole
        simpa using eq.symm)
      refine named (List.prefix_of_prefix_length_le ⟨_, List.append_assoc ..⟩ ⟨z, whole⟩ ?_)
      simp
      omega
    rw [array?, value?_of_missing missing]
    rfl

/-! ## Look-ups -/

theorem mem_of_mem_listed {ts : List (List Char)} {s : List Char} (h : Listed ts s) :
    ∀ c ∈ s, isBlank c = true ∨ c = ',' ∨ ∃ t ∈ ts, c ∈ t := by
  induction h with
  | none hb => exact fun c hc => .inl (hb c hc)
  | last hb hc =>
      intro x hx
      simp only [List.mem_append] at hx
      rcases hx with hx | hx | hx
      · exact .inl (hb x hx)
      · exact .inr (.inr ⟨_, List.mem_cons_self, hx⟩)
      · exact .inl (hc x hx)
  | more hb hc _ ih =>
      intro x hx
      simp only [List.mem_append, List.mem_cons] at hx
      rcases hx with hx | hx | hx | rfl | hx
      · exact .inl (hb x hx)
      · exact .inr (.inr ⟨_, List.mem_cons_self, hx⟩)
      · exact .inl (hc x hx)
      · exact .inr (.inl rfl)
      · rcases ih x hx with blank | comma | ⟨t, ht, mem⟩
        · exact .inl blank
        · exact .inr (.inl comma)
        · exact .inr (.inr ⟨t, List.mem_cons_of_mem _ ht, mem⟩)

theorem bracket_not_mem_listed {es : List Scalar} {s : List Char}
    (h : Listed (es.map Scalar.written) s) : '[' ∉ s ∧ ']' ∉ s := by
  have absent {c : Char} (blank : isBlank c = false) (comma : c ≠ ',')
      (others : ∀ e : Scalar, c ∉ e.written) : c ∉ s := by
    intro mem
    rcases mem_of_mem_listed h c mem with hc | hc | ⟨t, ht, hc⟩
    · rw [blank] at hc
      cases hc
    · exact comma hc
    · obtain ⟨e, -, rfl⟩ := List.mem_map.mp ht
      exact others e hc
  exact ⟨absent (by decide) (by decide) fun e => e.bracket_not_mem.2,
    absent (by decide) (by decide) fun e => e.bracket_not_mem.1⟩

def HoldsScalars (document field : List Char) (es : List Scalar) (front after : List Char) : Prop :=
  ∃ inner, ClosesArray document field inner front after ∧ Listed (es.map Scalar.written) inner

theorem read_of_holdsScalars {es : List Scalar} (held : HoldsScalars document field es front after)
    (short : ∀ e ∈ es, e.Short) :
    numbers? document field = some (es.filterMap Scalar.float?) ∧
    integers? document field = .ok (some (es.filterMap Scalar.integer?)) ∧
    (∃ inner, array? document field = some inner ∧
      ((elements inner).filter isInteger).Sublist
        ((elements inner).filter fun t => (read? t).isSome)) ∧
    (es = [] → numbers? document field = some [] ∧ integers? document field = .ok (some [])) ∧
    ∀ cut, cut <+: front → numbers? cut field = none ∧ integers? cut field = .ok none := by
  obtain ⟨inner, closes, listed⟩ := held
  have plain := bracket_not_mem_listed listed
  have array := closes.holdsArray plain
  have elements : HoldsElements document field (es.map Scalar.written) := ⟨inner, array, listed⟩
  have cells : ∀ t ∈ es.map Scalar.written, IsCell t :=
    List.forall_mem_map.mpr fun e _ => e.isCell
  have floats : numbers? document field = some (es.filterMap Scalar.float?) := by
    rw [numbers?_of_cells elements cells, List.filterMap_map]
    congr 2
    funext e
    exact e.read?_written
  have integers : integers? document field = .ok (some (es.filterMap Scalar.integer?)) := by
    have readable : ∀ t ∈ es.map Scalar.written, isInteger t = true → ∃ n, integer t = .ok n :=
      List.forall_mem_map.mpr fun e he => Scalar.readable (short e he)
    rw [integers?_of_cells elements cells readable, List.filterMap_map]
    exact congrArg (Except.ok ∘ some)
      (List.filterMap_congr fun e he => Scalar.integer?_written (short e he))
  refine ⟨floats, integers, ⟨inner, array?_eq_some array, ?_⟩, ?_, ?_⟩
  · exact List.monotone_filter_right _ fun t => isSome_read?_of_isInteger
  · rintro rfl
    exact ⟨floats, integers⟩
  · intro cut early
    have none := closes.array?_cut plain.2 early
    rw [numbers?, integers?, none]
    exact ⟨rfl, rfl⟩

theorem read_of_holdsScalars_mixed :
    let document := "\x7b\"n\":0, \"a\" : [ -9007199254740993, null ,2.5e1\t]\x7d]".toList
    numbers? document ['a'] = some [-9007199254740992, 25] ∧
    integers? document ['a'] = .ok (some [-9007199254740993]) ∧
    numbers? (document.take 40) ['a'] = none := by
  intro document
  let front := "\x7b\"n\":0, \"a\" : [ -9007199254740993, null ,2.5e1\t".toList
  let large : Literal := ⟨true, "9007199254740993".toList, [], none, by decide, by decide, by decide⟩
  let power : Exponent := ⟨'e', [], ['1'], by decide, .none, by decide, by decide⟩
  let other : Literal := ⟨false, ['2'], ['5'], some power, by decide, by decide, by decide⟩
  have held : HoldsScalars document ['a'] [.number large, .null, .number other] front
      "\x7d]".toList := by
    refine ⟨" -9007199254740993, null ,2.5e1\t".toList, ⟨by decide, "\x7b\"n\":0, ".toList, [' '],
      [' '], by decide, by decide +kernel, by decide, by decide⟩, ?_⟩
    have blanks : Blanks [' '] ∧ Blanks ['\t'] ∧ Blanks [] := by decide
    exact .more (b := [' ']) (c := []) blanks.1 blanks.2.2
      (.more (b := [' ']) (c := [' ']) blanks.1 blanks.1
        (.last (b := []) (c := ['\t']) blanks.2.2 blanks.2.1))
  have short : ∀ e ∈ [Scalar.number large, .null, .number other], e.Short := by
    simp only [List.forall_mem_cons]
    exact ⟨fun _ => by decide, trivial, fun _ => by decide, by simp⟩
  obtain ⟨numbers, integers, -, -, early⟩ := read_of_holdsScalars held short
  refine ⟨numbers.trans ?_, integers.trans ?_, (early _ ?_).1⟩
  · decide +kernel
  · decide +kernel
  · decide +kernel

end Sidekick.Field
