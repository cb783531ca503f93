import Sidekick.Calculator.Lexer
import Sidekick.Proofs.Calculator.Infix
import Sidekick.Proofs.Number.Numeral

namespace Sidekick.Calculator
open Text Number

def Operator.signs : Operator → List Char
  | .add => ['+']
  | .sub => ['-', '−', '–', '—']
  | .mul => ['*', '×']
  | .div => ['/', '÷']

structure IsLiteral (s : List Char) : Prop where
  numeric : ∀ c ∈ s, c.isDigit = true ∨ c = '.'
  digit : ∃ c ∈ s, c.isDigit = true
  point : s.count '.' ≤ 1

instance (s : List Char) : Decidable (IsLiteral s) :=
  decidable_of_iff ((∀ c ∈ s, c.isDigit = true ∨ c = '.') ∧ (∃ c ∈ s, c.isDigit = true) ∧
    s.count '.' ≤ 1) ⟨fun ⟨h₁, h₂, h₃⟩ => ⟨h₁, h₂, h₃⟩, fun ⟨h₁, h₂, h₃⟩ => ⟨h₁, h₂, h₃⟩⟩

inductive Derives : Phrase → List Char → Tree (List Char) → Prop
  | literal {s : List Char} : IsLiteral s → Derives .factor s (.leaf s)
  | negative {c : Char} {s : List Char} : c ∈ Operator.sub.signs → IsLiteral s →
      Derives .factor (c :: s) (.leaf ('-' :: s))
  | group {u s v : List Char} {t : Tree (List Char)} : Blanks u → Derives .sum s t → Blanks v →
      Derives .factor ('(' :: (u ++ (s ++ (v ++ [')'])))) t
  | tighter {p : Phrase} {s : List Char} {t : Tree (List Char)} :
      Derives p.tighter s t → Derives p s t
  | apply {o : Operator} {c : Char} {s u v r : List Char} {a b : Tree (List Char)} :
      Derives o.phrase s a → Blanks u → c ∈ o.signs → Blanks v → Derives o.phrase.tighter r b →
      Derives o.phrase (s ++ (u ++ c :: (v ++ r))) (.node o a b)

def Expression (s : List Char) (t : Tree (List Char)) : Prop :=
  ∃ u e v, Blanks u ∧ Derives .sum e t ∧ Blanks v ∧ s = u ++ (e ++ v)

theorem numeric_parts {s : List Char} (numeric : ∀ c ∈ s, c.isDigit = true ∨ c = '.') :
    ∃ whole rest, AllDigits whole ∧ s = whole ++ rest ∧ (rest = [] ∨ ∃ t, rest = '.' :: t) := by
  have split : s.takeWhile Char.isDigit ++ s.dropWhile Char.isDigit = s :=
    List.takeWhile_append_dropWhile
  have first := List.head?_dropWhile_not Char.isDigit s
  refine ⟨_, _, fun c hc => List.all_eq_true.mp List.all_takeWhile c hc, split.symm, ?_⟩
  cases rest : s.dropWhile Char.isDigit with
  | nil => exact .inl rfl
  | cons c t =>
      rw [rest] at split first
      rcases numeric c (split ▸ List.mem_append_right _ List.mem_cons_self) with digit | rfl
      · simp [digit] at first
      · exact .inr ⟨t, rfl⟩

theorem IsLiteral.parts {s : List Char} (h : IsLiteral s) :
    ∃ whole fraction, AllDigits whole ∧ IsFraction fraction ∧ s = whole ++ fraction := by
  obtain ⟨whole, rest, digits, rfl, rfl | ⟨t, rfl⟩⟩ := numeric_parts h.numeric
  · exact ⟨whole, [], digits, .none, rfl⟩
  · have once := h.point
    rw [List.count_append, List.count_cons_self] at once
    have noOther : '.' ∉ t := List.count_eq_zero.mp (by omega)
    refine ⟨whole, '.' :: t, digits, .point fun d hd => ?_, rfl⟩
    rcases h.numeric d (List.mem_append_right _ (List.mem_cons_of_mem _ hd)) with digit | rfl
    · exact digit
    · exact absurd hd noOther

theorem IsLiteral.isSome_read? {sign s : List Char} (hs : IsSign sign) (h : IsLiteral s) :
    (read? (sign ++ s)).isSome = true := by
  have digit := h.digit
  obtain ⟨whole, fraction, hw, hf, rfl⟩ := h.parts
  have readable := isSome_read?_numeral hs hw hf .none digit
  rwa [List.append_nil] at readable

theorem Derives.isSome_read? {p : Phrase} {s : List Char} {t : Tree (List Char)}
    (h : Derives p s t) : (t.read? read?).isSome = true := by
  induction h with
  | literal hl =>
      have readable := hl.isSome_read? .none
      rw [List.nil_append] at readable
      rw [Tree.read?, Option.isSome_map, readable]
  | negative _ hl =>
      have readable := hl.isSome_read? .minus
      rw [List.singleton_append] at readable
      rw [Tree.read?, Option.isSome_map, readable]
  | group _ _ _ ih => exact ih
  | tighter _ ih => exact ih
  | apply _ _ _ _ _ iha ihb =>
      obtain ⟨a', ha⟩ := Option.isSome_iff_exists.mp iha
      obtain ⟨b', hb⟩ := Option.isSome_iff_exists.mp ihb
      simp [Tree.read?, ha, hb]

end Sidekick.Calculator
