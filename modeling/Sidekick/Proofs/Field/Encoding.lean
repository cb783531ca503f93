import Sidekick.Field.Quoted

namespace Sidekick.Field
open Number Text

structure Figure where
  value : Fin 16
  capital : Bool

def Figure.char (f : Figure) : Char :=
  let c := Nat.digitChar f.value
  if f.capital then c.toUpper else c

structure CodeUnit where
  a : Figure
  b : Figure
  c : Figure
  d : Figure

namespace CodeUnit

def value (u : CodeUnit) : Nat :=
  16 * (16 * (16 * u.a.value + u.b.value) + u.c.value) + u.d.value

def figures (u : CodeUnit) : List Char := [u.a.char, u.b.char, u.c.char, u.d.char]

def IsHigh (u : CodeUnit) : Prop := 0xD800 ≤ u.value ∧ u.value ≤ 0xDBFF

def IsLow (u : CodeUnit) : Prop := 0xDC00 ≤ u.value ∧ u.value ≤ 0xDFFF

instance (u : CodeUnit) : Decidable u.IsHigh := inferInstanceAs (Decidable (_ ∧ _))

instance (u : CodeUnit) : Decidable u.IsLow := inferInstanceAs (Decidable (_ ∧ _))

def lone (u : CodeUnit) : Char :=
  if u.IsHigh ∨ u.IsLow then '\uFFFD' else Char.ofNat u.value

def pair (high low : CodeUnit) : Char :=
  Char.ofNat (0x10000 + (high.value - 0xD800) * 0x400 + (low.value - 0xDC00))

end CodeUnit

inductive ShortEscape where
  | quote
  | backslash
  | slash
  | backspace
  | formFeed
  | newline
  | carriageReturn
  | tab
  deriving DecidableEq

namespace ShortEscape

def letter : ShortEscape → Char
  | quote => '\x22'
  | backslash => '\\'
  | slash => '/'
  | backspace => 'b'
  | formFeed => 'f'
  | newline => 'n'
  | carriageReturn => 'r'
  | tab => 't'

def char : ShortEscape → Char
  | quote => '\x22'
  | backslash => '\\'
  | slash => '/'
  | backspace => '\x08'
  | formFeed => '\x0C'
  | newline => '\x0A'
  | carriageReturn => '\x0D'
  | tab => '\x09'

end ShortEscape

inductive Encoded where
  | literal (c : Char) (plain : c ≠ '\x22' ∧ c ≠ '\\')
  | short (s : ShortEscape)
  | unit (u : CodeUnit)

def Encoded.text : Encoded → List Char
  | literal c _ => [c]
  | short s => ['\\', s.letter]
  | unit u => '\\' :: 'u' :: u.figures

def encodedText (e : List Encoded) : List Char := e.flatMap Encoded.text

def literals (s : List Char) (h : ∀ c ∈ s, c ≠ '\x22' ∧ c ≠ '\\') : List Encoded :=
  s.attach.map fun c => .literal c.1 (h c.1 c.2)

def meaning : List Encoded → List Char
  | [] => []
  | .literal c _ :: rest => c :: meaning rest
  | .short s :: rest => s.char :: meaning rest
  | .unit u :: .unit v :: rest =>
    if u.IsHigh ∧ v.IsLow then u.pair v :: meaning rest else u.lone :: meaning (.unit v :: rest)
  | .unit u :: rest => u.lone :: meaning rest

/-- The encoded forms of a text: each character as it is, by its short escape, by its code unit, or
by the two surrogates of a supplementary character. -/
inductive Encodes : List Encoded → List Char → Prop
  | nil : Encodes [] []
  | literal {c : Char} {plain : c ≠ '\x22' ∧ c ≠ '\\'} {e : List Encoded} {v : List Char} :
      Encodes e v → Encodes (.literal c plain :: e) (c :: v)
  | short (s : ShortEscape) {e : List Encoded} {v : List Char} :
      Encodes e v → Encodes (.short s :: e) (s.char :: v)
  | unit {u : CodeUnit} {c : Char} {e : List Encoded} {v : List Char} :
      u.value = c.toNat → Encodes e v → Encodes (.unit u :: e) (c :: v)
  | pair {u w : CodeUnit} {c : Char} {e : List Encoded} {v : List Char} : 0x10000 ≤ c.toNat →
      u.value = 0xD800 + (c.toNat - 0x10000) / 0x400 →
      w.value = 0xDC00 + (c.toNat - 0x10000) % 0x400 →
      Encodes e v → Encodes (.unit u :: .unit w :: e) (c :: v)

theorem not_surrogate (c : Char) : c.toNat < 0xD800 ∨ 0xDFFF < c.toNat ∧ c.toNat < 0x110000 := by
  exact c.valid

theorem lone_of_value {u : CodeUnit} {c : Char} (h : u.value = c.toNat) : u.lone = c := by
  have scalar := not_surrogate c
  have whole : ¬ (u.IsHigh ∨ u.IsLow) := by
    simp only [CodeUnit.IsHigh, CodeUnit.IsLow]
    omega
  rw [CodeUnit.lone, if_neg whole, h, Char.ofNat_toNat]

theorem pair_of_values {u w : CodeUnit} {c : Char} (large : 0x10000 ≤ c.toNat)
    (high : u.value = 0xD800 + (c.toNat - 0x10000) / 0x400)
    (low : w.value = 0xDC00 + (c.toNat - 0x10000) % 0x400) :
    u.IsHigh ∧ w.IsLow ∧ u.pair w = c := by
  have scalar := not_surrogate c
  refine ⟨by simp only [CodeUnit.IsHigh]; omega, by simp only [CodeUnit.IsLow]; omega, ?_⟩
  have joined : 0x10000 + (u.value - 0xD800) * 0x400 + (w.value - 0xDC00) = c.toNat := by omega
  rw [CodeUnit.pair, joined, Char.ofNat_toNat]

theorem meaning_unit {u : CodeUnit} (whole : ¬ u.IsHigh) (e : List Encoded) :
    meaning (.unit u :: e) = u.lone :: meaning e := by
  cases e with
  | nil => rfl
  | cons p e =>
      cases p with
      | literal c plain => rfl
      | short s => rfl
      | unit v => rw [meaning, if_neg fun h => whole h.1]

theorem meaning_of_encodes {e : List Encoded} {v : List Char} (h : Encodes e v) :
    meaning e = v := by
  induction h with
  | nil => rfl
  | literal _ ih => rw [meaning, ih]
  | short s _ ih => rw [meaning, ih]
  | @unit u c e v value _ ih =>
      have scalar := not_surrogate c
      have whole : ¬ u.IsHigh := by simp only [CodeUnit.IsHigh]; omega
      rw [meaning_unit whole, ih, lone_of_value value]
  | pair large high low _ ih =>
      obtain ⟨isHigh, isLow, joined⟩ := pair_of_values large high low
      rw [meaning, if_pos ⟨isHigh, isLow⟩, ih, joined]

end Sidekick.Field
