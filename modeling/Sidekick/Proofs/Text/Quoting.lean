import Mathlib.Data.Nat.Digits.Defs
import Sidekick.Number.Hexadecimal
import Sidekick.Text.Quoted

namespace Sidekick.Text
open Number

def hexNumber (s : List Char) : Nat := s.foldl (fun n c => 16 * n + (hexValue? c).getD 0) 0

theorem hexNumber_concat (s : List Char) (c : Char) :
    hexNumber (s ++ [c]) = 16 * hexNumber s + (hexValue? c).getD 0 := by
  rw [hexNumber, List.foldl_append]
  rfl

theorem hexValue?_digitChar : ∀ d < 16, hexValue? (Nat.digitChar d) = some d := by decide

theorem hexNumber_toDigits (n : Nat) : hexNumber (Nat.toDigits 16 n) = n := by
  induction n using Nat.strongRecOn with
  | ind n ih =>
      by_cases small : n < 16
      · rw [Nat.toDigits_of_lt_base small, hexNumber, List.foldl_cons, hexValue?_digitChar n small]
        exact Nat.zero_add n
      · have digit := hexValue?_digitChar (n % 16) (Nat.mod_lt n (by decide))
        rw [Nat.toDigits_of_base_le (by decide) (by omega), hexNumber_concat, digit,
          ih (n / 16) (by omega)]
        exact Nat.div_add_mod n 16

theorem newline_not_mem_toDigits (n : Nat) : '\n' ∉ Nat.toDigits 16 n := by
  have digits : ∀ d < 16, '\n' ≠ Nat.digitChar d := by decide
  induction n using Nat.strongRecOn with
  | ind n ih =>
      by_cases small : n < 16
      · rw [Nat.toDigits_of_lt_base small, List.mem_singleton]
        exact digits n small
      · rw [Nat.toDigits_of_base_le (by decide) (by omega), List.mem_append, List.mem_singleton]
        exact not_or.mpr ⟨ih (n / 16) (by omega), digits _ (Nat.mod_lt n (by decide))⟩

theorem hexNumber_hexDigits (width n : Nat) : hexNumber (hexDigits width n) = n := by
  have zeros (k : Nat) (s : List Char) : hexNumber (List.replicate k '0' ++ s) = hexNumber s := by
    induction k with
    | zero => rfl
    | succ k ih => exact ih
  rw [hexDigits, zeros, hexNumber_toDigits]

theorem length_hexDigits {width n : Nat} (pos : 0 < width) (small : n < 16 ^ width) :
    (hexDigits width n).length = width := by
  have most := (Nat.length_toDigits_le_iff (b := 16) (by decide) pos).mpr small
  simp only [hexDigits, List.length_append, List.length_replicate]
  omega

theorem newline_not_mem_hexDigits (width n : Nat) : '\n' ∉ hexDigits width n := by
  rw [hexDigits, List.mem_append, List.mem_replicate]
  exact not_or.mpr ⟨fun h => absurd h.2 (by decide), newline_not_mem_toDigits n⟩

def figuresBehind (letter : Char) : Nat :=
  if letter = 'x' then 2 else if letter = 'u' then 4 else if letter = 'U' then 8 else 0

def escapedChar (letter : Char) (figures : List Char) : Char :=
  if letter = 'n' then '\n'
  else if letter = 'r' then '\r'
  else if letter = 't' then '\t'
  else if figuresBehind letter = 0 then letter
  else Char.ofNat (hexNumber figures)

/-- What a character can be in a text quoted by `mark`: itself, or an escape that tells it. -/
inductive Quotes (mark c : Char) : List Char → Prop
  | kept : c ≠ mark → c ≠ '\\' → c ≠ '\n' → Quotes mark c [c]
  | escape {letter : Char} {figures : List Char} : figures.length = figuresBehind letter →
      escapedChar letter figures = c → '\n' ∉ letter :: figures →
      Quotes mark c ('\\' :: letter :: figures)

theorem quotes_hexEscape (mark c : Char) : Quotes mark c (hexEscape c.toNat) := by
  have hex {letter : Char} {width : Nat} (behind : figuresBehind letter = width)
      (pos : 0 < width) (small : c.toNat < 16 ^ width)
      (plain : letter ≠ 'n' ∧ letter ≠ 'r' ∧ letter ≠ 't' ∧ '\n' ≠ letter) :
      Quotes mark c ('\\' :: letter :: hexDigits width c.toNat) := by
    refine .escape ((length_hexDigits pos small).trans behind.symm) ?_ ?_
    · rw [escapedChar, if_neg plain.1, if_neg plain.2.1, if_neg plain.2.2.1, behind,
        if_neg (by omega), hexNumber_hexDigits, Char.ofNat_toNat]
    · exact List.not_mem_cons_of_ne_of_not_mem plain.2.2.2 (newline_not_mem_hexDigits _ _)
  have scalar : c.toNat < 16 ^ 8 := by
    have valid := c.valid
    simp only [UInt32.isValidChar, Nat.isValidChar] at valid
    rw [Char.toNat]
    omega
  rw [hexEscape]
  split_ifs with short medium
  · exact hex rfl (by decide) short (by decide)
  · exact hex rfl (by decide) medium (by decide)
  · exact hex rfl (by decide) scalar (by decide)

theorem Quotes.append_inj {mark c d : Char} {s t r r' : List Char} (hs : Quotes mark c s)
    (ht : Quotes mark d t) (eq : s ++ r = t ++ r') : c = d ∧ r = r' := by
  cases hs with
  | kept _ backslash =>
      cases ht with
      | kept => exact List.cons.inj eq
      | escape => exact absurd (List.cons.inj eq).1 backslash
  | escape behind means =>
      cases ht with
      | kept _ backslash => exact absurd (List.cons.inj eq).1.symm backslash
      | escape behind' means' =>
          obtain ⟨rfl, rest⟩ := List.cons.inj (List.cons.inj eq).2
          obtain ⟨rfl, rfl⟩ := List.append_inj rest (behind.trans behind'.symm)
          exact ⟨means.symm.trans means', rfl⟩

theorem Quotes.newline_not_mem {mark c : Char} {s : List Char} (h : Quotes mark c s) : '\n' ∉ s := by
  cases h with
  | kept _ _ other => simpa using Ne.symm other
  | escape _ _ plain => exact List.not_mem_cons_of_ne_of_not_mem (by decide) plain

section

variable {mark : Char} (quotation : mark = '\x22' ∨ mark = '\x27')

include quotation

theorem quotes_quotedChar (c : Char) : Quotes mark c (quotedChar mark c) := by
  rw [quotedChar]
  split_ifs with special newline carriageReturn tab printable
  · have own : c = '\x22' ∨ c = '\x27' ∨ c = '\\' := by
      rcases special with rfl | backslash
      · exact quotation.imp_right .inl
      · exact .inr (.inr backslash)
    obtain rfl | rfl | rfl := own
    all_goals exact .escape rfl rfl (by decide)
  · rw [newline]
    exact .escape rfl rfl (by decide)
  · rw [carriageReturn]
    exact .escape rfl rfl (by decide)
  · rw [tab]
    exact .escape rfl rfl (by decide)
  · obtain ⟨other, backslash⟩ := not_or.mp special
    exact .kept other backslash newline
  · exact quotes_hexEscape mark c

theorem Quotes.append_ne {c : Char} {s : List Char} (h : Quotes mark c s) (r r' : List Char) :
    s ++ r ≠ mark :: r' := by
  cases h with
  | kept other => exact fun eq => other (List.cons.inj eq).1
  | escape =>
      intro eq
      obtain rfl : '\\' = mark := (List.cons.inj eq).1
      exact quotation.elim (by decide) (by decide)

-- No quoted character begins with the mark, so that it ends the text where it stands.
theorem flatMap_quotedChar_append_inj {s t r r' : List Char}
    (eq : s.flatMap (quotedChar mark) ++ mark :: r = t.flatMap (quotedChar mark) ++ mark :: r') :
    s = t ∧ r = r' := by
  induction s generalizing t with
  | nil =>
      cases t with
      | nil => exact ⟨rfl, (List.cons.inj eq).2⟩
      | cons d t =>
          rw [List.flatMap_cons, List.append_assoc] at eq
          exact absurd eq.symm ((quotes_quotedChar quotation d).append_ne quotation _ _)
  | cons c s ih =>
      cases t with
      | nil =>
          rw [List.flatMap_cons, List.append_assoc] at eq
          exact absurd eq ((quotes_quotedChar quotation c).append_ne quotation _ _)
      | cons d t =>
          rw [List.flatMap_cons, List.append_assoc, List.flatMap_cons, List.append_assoc] at eq
          obtain ⟨rfl, rest⟩ :=
            (quotes_quotedChar quotation c).append_inj (quotes_quotedChar quotation d) eq
          obtain ⟨rfl, rfl⟩ := ih rest
          exact ⟨rfl, rfl⟩

end

theorem quotationMark_or (s : List Char) :
    quotationMark s = '\x22' ∨ quotationMark s = '\x27' := by
  rw [quotationMark]
  split
  · exact .inl rfl
  · exact .inr rfl

theorem toList_quote (s : String) : (quote s).toList = quoteChars s.toList := String.toList_ofList

theorem quoteChars_append_inj {s t r r' : List Char}
    (eq : quoteChars s ++ r = quoteChars t ++ r') : s = t ∧ r = r' := by
  simp only [quoteChars, List.cons_append, List.append_assoc, List.nil_append] at eq
  obtain ⟨same, eq⟩ := List.cons.inj eq
  rw [← same] at eq
  exact flatMap_quotedChar_append_inj (quotationMark_or s) eq

theorem newline_not_mem_quoteChars (s : List Char) : '\n' ∉ quoteChars s := by
  have mark : '\n' ≠ quotationMark s := by
    rcases quotationMark_or s with eq | eq
    all_goals rw [eq]; decide
  have chars : '\n' ∉ s.flatMap (quotedChar (quotationMark s)) := by
    intro mem
    obtain ⟨c, -, mem⟩ := List.mem_flatMap.mp mem
    exact (quotes_quotedChar (quotationMark_or s) c).newline_not_mem mem
  simp [quoteChars, mark, chars]

end Sidekick.Text
