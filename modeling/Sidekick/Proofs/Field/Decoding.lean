import Sidekick.Proofs.Field.Encoding
import Sidekick.Proofs.Text.Runs

namespace Sidekick.Field
open Number Text

theorem hexValue?_char (f : Figure) : hexValue? f.char = some f.value.val := by
  have all : ∀ v : Fin 16, ∀ b : Bool, hexValue? (Figure.char ⟨v, b⟩) = some v.val := by decide
  exact all f.value f.capital

structure IsPlainFigure (c : Char) : Prop where
  blank : isNumeralBlank c = false
  digit : plainDigit c = c
  minus : c ≠ '-'
  plus : c ≠ '+'
  underscore : c ≠ '_'
  small : c ≠ 'x'
  capital : c ≠ 'X'

instance (c : Char) : Decidable (IsPlainFigure c) :=
  decidable_of_iff (isNumeralBlank c = false ∧ plainDigit c = c ∧ c ≠ '-' ∧ c ≠ '+' ∧ c ≠ '_' ∧
    c ≠ 'x' ∧ c ≠ 'X') ⟨fun ⟨h₁, h₂, h₃, h₄, h₅, h₆, h₇⟩ => ⟨h₁, h₂, h₃, h₄, h₅, h₆, h₇⟩,
      fun ⟨h₁, h₂, h₃, h₄, h₅, h₆, h₇⟩ => ⟨h₁, h₂, h₃, h₄, h₅, h₆, h₇⟩⟩

theorem isPlainFigure_char (f : Figure) : IsPlainFigure f.char := by
  have all : ∀ v : Fin 16, ∀ b : Bool, IsPlainFigure (Figure.char ⟨v, b⟩) := by decide
  exact all f.value f.capital

theorem dropMark_of_ne {c d : Char} (small : d ≠ 'x') (capital : d ≠ 'X') (s : List Char) :
    dropMark (c :: d :: s) = c :: d :: s := by
  unfold dropMark
  split <;> simp_all

theorem readHex?_figures (u : CodeUnit) : readHex? u.figures = some (u.value : Int) := by
  obtain ⟨a, b, c, d⟩ := u
  have ha := isPlainFigure_char a
  have hb := isPlainFigure_char b
  have hc := isPlainFigure_char c
  have hd := isPlainFigure_char d
  have unmarked := dropMark_of_ne (c := a.char) hb.small hb.capital [c.char, d.char]
  simp [readHex?, CodeUnit.figures, CodeUnit.value, ha.blank, hd.blank, ha.digit, hb.digit,
    hc.digit, hd.digit, takeSign, ha.minus, ha.plus, unmarked, ungroup, ha.underscore,
    hb.underscore, hc.underscore, hd.underscore, hexValue?_char, signed]

def Encoded.item : Encoded → Item
  | literal c _ => .plain c
  | short s => .escaped s.letter
  | unit u => .unit u.figures

theorem items_text (p : Encoded) (s : List Char) :
    items (p.text ++ s) = (p.item :: (items s).1, (items s).2) := by
  cases p with
  | literal c plain =>
      rw [Encoded.text, List.singleton_append, items]
      · rfl
      · exact plain.1
      · rintro rfl _
        exact plain.2 rfl
      · intro _ _ _ _ _ eq _
        exact plain.2 eq
      · intro _ eq _
        exact plain.2 eq
      · intro _ _ eq _
        exact plain.2 eq
  | short e => cases e <;> rfl
  | unit u => rfl

theorem items_plain {c : Char} (quote : c ≠ '\x22') (backslash : c ≠ '\\') (s : List Char) :
    items (c :: s) = (.plain c :: (items s).1, (items s).2) :=
  items_text (.literal c ⟨quote, backslash⟩) s

theorem items_escaped {c : Char} (other : c ≠ 'u') (s : List Char) :
    items ('\\' :: c :: s) = (.escaped c :: (items s).1, (items s).2) := by
  rw [items]
  all_goals simp_all

theorem items_unit {s : List Char} (four : 4 ≤ s.length) :
    items ('\\' :: 'u' :: s) =
      (.unit (s.take 4) :: (items (s.drop 4)).1, (items (s.drop 4)).2) := by
  match s, four with
  | a :: b :: c :: d :: s, _ => rfl

theorem length_lt_of_short {s : List Char}
    (short : ∀ a b c d rest, s = a :: b :: c :: d :: rest → False) : s.length < 4 := by
  rcases s with _ | ⟨a, _ | ⟨b, _ | ⟨c, _ | ⟨d, s⟩⟩⟩⟩
  · simp
  · simp
  · simp
  · simp
  · exact (short a b c d s rfl).elim

theorem ne_backslash {c : Char} {s : List Char} (last : c = '\\' → s = [] → False)
    (more : ∀ d t, c = '\\' → s = d :: t → False) : c ≠ '\\' := by
  intro eq
  cases s with
  | nil => exact last eq rfl
  | cons d t => exact more d t eq rfl

-- Of a unit cut short by the end of the text only the backslash and the `u` are dropped.
theorem items_short {s : List Char} (few : s.length < 4) : items ('\\' :: 'u' :: s) = items s := by
  match s, few with
  | [], _ | [a], _ | [a, b], _ | [a, b, c], _ => rfl

theorem items_append (e : List Encoded) (s : List Char) :
    items (encodedText e ++ s) = (e.map Encoded.item ++ (items s).1, (items s).2) := by
  induction e with
  | nil => rfl
  | cons p e ih =>
      rw [encodedText, List.flatMap_cons, List.append_assoc, items_text, ← encodedText, ih]
      rfl

theorem items_encodedText (e : List Encoded) (rest : List Char) :
    items (encodedText e ++ '\x22' :: rest) = (e.map Encoded.item, '\x22' :: rest) := by
  rw [items_append, items, List.append_nil]

theorem unescape_letter (s : ShortEscape) : unescape s.letter = s.char := by
  cases s <;> rfl

theorem unitValue_figures (u : CodeUnit) : unitValue u.figures = u.value := by
  rw [unitValue, readHex?_figures, Option.getD_some]

theorem isHighSurrogate_value (u : CodeUnit) :
    isHighSurrogate (u.value : Int) = decide u.IsHigh := by
  rw [Bool.eq_iff_iff]
  simp only [isHighSurrogate, Bool.and_eq_true, decide_eq_true_eq]
  unfold CodeUnit.IsHigh
  omega

theorem isLowSurrogate_value (u : CodeUnit) : isLowSurrogate (u.value : Int) = decide u.IsLow := by
  rw [Bool.eq_iff_iff]
  simp only [isLowSurrogate, Bool.and_eq_true, decide_eq_true_eq]
  unfold CodeUnit.IsLow
  omega

theorem single_value (u : CodeUnit) : single (u.value : Int) = u.lone := by
  rw [single, isHighSurrogate_value, isLowSurrogate_value, CodeUnit.lone, Int.toNat_natCast]
  simp only [Bool.or_eq_true, decide_eq_true_eq]

theorem joined_values {u v : CodeUnit} (high : u.IsHigh) (low : v.IsLow) :
    joined (u.value : Int) (v.value : Int) = u.pair v := by
  have number : (0x10000 + ((u.value : Int) - 0xD800) * 0x400 + ((v.value : Int) - 0xDC00)).toNat =
      0x10000 + (u.value - 0xD800) * 0x400 + (v.value - 0xDC00) := by
    simp only [CodeUnit.IsHigh, CodeUnit.IsLow] at high low
    omega
  rw [joined, number, CodeUnit.pair]

theorem decodeItems_item (e : List Encoded) :
    decodeItems (e.map Encoded.item) = .ok (meaning e) := by
  fun_induction meaning e with
  | case1 => rfl
  | case2 c plain rest ih =>
      rw [List.map_cons, Encoded.item, decodeItems, ih]
      rfl
  | case3 s rest ih =>
      rw [List.map_cons, Encoded.item, decodeItems, ih, unescape_letter]
      rfl
  | case4 u v rest h ih =>
      simp only [List.map_cons, Encoded.item, decodeItems, unitValue_figures, isHighSurrogate_value,
        isLowSurrogate_value, h, decide_true, Bool.and_self, if_true, ih, joined_values h.1 h.2]
      rfl
  | case5 u v rest h ih =>
      have apart : (decide u.IsHigh && decide v.IsLow) = false := by simpa using h
      have natural : ¬ (u.value : Int) < 0 := by omega
      rw [List.map_cons, Encoded.item] at ih
      simp only [List.map_cons, Encoded.item, decodeItems, unitValue_figures, isHighSurrogate_value,
        isLowSurrogate_value, apart, Bool.false_eq_true, if_false, natural, ih, single_value]
      rfl
  | case6 u rest h ih =>
      have natural : ¬ (u.value : Int) < 0 := by omega
      rw [List.map_cons, Encoded.item, decodeItems]
      · simp only [unitValue_figures, natural, if_false, ih, single_value]
        rfl
      · intro low others eq
        cases rest with
        | nil => cases eq
        | cons p rest =>
            cases p with
            | literal => cases eq
            | short => cases eq
            | unit v => exact h v rest rfl

theorem decode_encodedText (e : List Encoded) (rest : List Char) :
    decode (encodedText e ++ '\x22' :: rest) = .ok (meaning e) := by
  rw [decode, items_encodedText, decodeItems_item]

theorem items_unended (e : List Encoded) : items (encodedText e) = (e.map Encoded.item, []) := by
  have whole := items_append e []
  rwa [List.append_nil, items, List.append_nil] at whole

theorem decode_unended (e : List Encoded) : decode (encodedText e) = .ok (meaning e) := by
  rw [decode, items_unended, decodeItems_item]

end Sidekick.Field
