import Sidekick.Proofs.Calculator.Parts

namespace Sidekick.Calculator
open Text Number

structure Legible (s : List Char) : Prop where
  characters : ∀ c ∈ s, isLegal c = true
  runs : ∀ before run after, MaximalRun s before run after →
    (∃ c ∈ run, c.isDigit = true) ∧ run.count '.' ≤ 1

structure TakenApart (s : List Char) (ts : List (Token Float)) (ps : List Part) : Prop where
  source : source ps = s
  tokens : tokensOf ps = ts
  spells : ∀ e t, .token e t ∈ ps → Spells e t
  blanks : ∀ c, .blank c ∈ ps → isBlank c = true
  sources : (ps.filterMap Part.source?).flatten = s.filter (!isBlank ·)
  run : ∀ before run after, MaximalRun s before run after → ∃ us p, Lies ps us p before run ∧
    p.isNumber = true ∧ ∀ us' p', Lies ps us' p' before run → us' = us ∧ p' = p
  /-- A minus lies in a number just if it stands before a run and behind no operand and no closing
  parenthesis. -/
  minus : ∀ before after, s = before ++ '-' :: after → ∃ us vs, ps = us ++ vs ∧
    Calculator.source us = before ∧
    ((∃ us' p, Lies ps us' p before ['-'] ∧ p.isNumber = true) ↔
      (∃ run rest, MaximalRun s (before ++ ['-']) run rest) ∧
        operandMayFollow (tokensOf us).getLast? = true)

inductive Offends (s before : List Char) : Prop
  | character {c : Char} {after : List Char} : s = before ++ c :: after → isLegal c = false →
      Offends s before
  | run {run after : List Char} : MaximalRun s before run after → ¬ IsLiteral run →
      Offends s before

def NoneBefore (s before : List Char) : Prop :=
  ∀ front, Offends s front → before.length ≤ front.length

/-- A minus stands at the end where an operand may begin. -/
def EndsSigned (before : List Char) : Prop :=
  ∃ front ts, before = front ++ ['-'] ∧ tokens read? front = .ok ts ∧
    operandMayFollow ts.getLast? = true

/-- The fault that names the leftmost offender: the character, or the run with its sign. -/
inductive Blames (s : List Char) : Fault → Prop
  | character {before after : List Char} {c : Char} : s = before ++ c :: after →
      isLegal c = false → NoneBefore s before → Blames s (.invalidCharacter c)
  | run {before run after : List Char} : MaximalRun s before run after → ¬ IsLiteral run →
      NoneBefore s before → ¬ EndsSigned before → Blames s (.badNumber run)
  | signed {before run after : List Char} : MaximalRun s before run after → ¬ IsLiteral run →
      NoneBefore s before → EndsSigned before → Blames s (.badNumber ('-' :: run))

variable {s e before run after rest : List Char} {ps us vs : List Part}
  {last : Option (Token Float)}

/-! ## Legible texts -/

theorem MaximalRun.isLiteral (maximal : MaximalRun s before run after)
    (digit : ∃ c ∈ run, c.isDigit = true) (point : run.count '.' ≤ 1) : IsLiteral run where
  numeric c hc := by simpa [isNumeric] using maximal.numeric c hc
  digit := digit
  point := point

theorem MaximalRun.length_lt (h : MaximalRun s before run after) : before.length < s.length := by
  have some := List.length_pos_iff.mpr h.ne_nil
  rw [h.text]
  simp only [List.length_append]
  omega

theorem Offends.length_lt (h : Offends s before) : before.length < s.length := by
  cases h with
  | character text _ =>
      rw [text]
      simp
  | run maximal _ => exact maximal.length_lt

theorem legible_iff : Legible s ↔ ∀ before, ¬ Offends s before := by
  constructor
  · rintro ⟨characters, runs⟩ before (⟨text, illegal⟩ | ⟨maximal, bad⟩)
    · rw [characters _ (by simp [text])] at illegal
      cases illegal
    · obtain ⟨digit, point⟩ := runs _ _ _ maximal
      exact bad (maximal.isLiteral digit point)
  · intro free
    refine ⟨fun c hc => ?_, fun before run after maximal => ?_⟩
    · obtain ⟨before, after, text⟩ := List.append_of_mem hc
      cases legal : isLegal c with
      | true => rfl
      | false => exact absurd (.character text legal) (free before)
    · have literal : IsLiteral run := Classical.byContradiction fun bad =>
        free before (.run maximal bad)
      exact ⟨literal.digit, literal.point⟩

-- No offender begins in what was cut off.
theorem Cut.noneBefore (h : Cut last s ps rest) : NoneBefore s (source ps) := by
  intro front offends
  refine Nat.le_of_not_lt fun inside => ?_
  cases offends with
  | @character c after text illegal =>
      have place : c ∈ source ps := by
        have same := h.text.symm.trans text
        rcases List.append_eq_append_iff.mp same with ⟨a, eq, -⟩ | ⟨a, eq, tail⟩
        · rw [eq, List.length_append] at inside
          omega
        · cases a with
          | nil => simp [eq] at inside
          | cons d a =>
              obtain ⟨rfl, -⟩ := List.cons.inj tail
              simp [eq]
      rw [h.legal c place] at illegal
      cases illegal
  | run maximal bad => exact bad (h.number maximal inside).1

/-! ## Tokens -/

theorem plainSign_plainSign (c : Char) : plainSign (plainSign c) = plainSign c := by
  have signs : ∀ d ∈ ['-', '*', '/'], plainSign d = d := by decide
  rcases plainSign_eq_or c with same | sign
  · rw [same, same]
  · exact signs _ sign

theorem tokens_of_cut (h : Cut none s ps rest) (plain : s.map plainSign = s) :
    tokens read? (source ps) = .ok (tokensOf ps) := by
  have front : (source ps).map plainSign = source ps := by
    have all := h.text ▸ plain
    rw [List.map_append] at all
    exact (List.append_inj all (List.length_map _)).1
  rw [tokens, front, tokensAfter_of_cut h.whole]
  exact congrArg Except.ok (List.append_nil _)

theorem takenApart_of_cut (h : Cut none s ps []) : TakenApart s (tokensOf ps) ps := by
  have text : source ps = s := by rw [h.text, List.append_nil]
  refine ⟨text, rfl, h.spells, h.blanks, text ▸ flatten_sources h.blanks h.spells,
    fun before run after maximal => ?_, fun before after minus => ?_⟩
  · have inside : before.length < (source ps).length := text ▸ maximal.length_lt
    obtain ⟨-, us, p, lies, number⟩ := h.number maximal inside
    exact ⟨us, p, lies, number, fun us' p' lies' => lies'.unique maximal.ne_nil lies⟩
  · have inside : before.length < (source ps).length := by
      rw [text, minus]
      simp
    obtain ⟨us, p, lies, place, number⟩ := h.minus minus inside
    obtain ⟨vs, x, y, parts, -⟩ := id lies
    refine ⟨us, p :: vs, parts, place, ?_⟩
    rw [exists_maximalRun_iff minus, ← lastToken_none, ← number]
    constructor
    · rintro ⟨us', p', lies', number'⟩
      obtain ⟨-, rfl⟩ := lies'.unique (List.cons_ne_nil _ _) lies
      exact number'
    · exact fun number' => ⟨us, p, lies, number'⟩

/-! ## Faults -/

theorem Spells.ne_minus {x : Float} (h : Spells e (.operand x)) : e ≠ ['-'] := by
  rintro rfl
  cases h with
  | literal literal _ => exact absurd literal (by decide)
  | negative _ literal _ => exact literal.ne_nil rfl

theorem exists_of_isNumber {p : Part} (h : p.isNumber = true) :
    ∃ e x, p = .token e (.operand x) := by
  cases p with
  | blank c => cases h
  | token e t =>
      cases t with
      | opening => cases h
      | closing => cases h
      | item i =>
          cases i with
          | operator o => cases h
          | operand x => exact ⟨e, x, rfl⟩

-- Before a run, a minus that was cut off as a token is no sign.
theorem not_endsSigned (h : Cut none s ps rest) (plain : s.map plainSign = s)
    (go : ¬ Stops isNumeric rest) : ¬ EndsSigned (source ps) := by
  rintro ⟨front, ts, ends, found, free⟩
  have text : s = front ++ '-' :: rest := by rw [h.text, ends, List.append_assoc]; rfl
  have inside : front.length < (source ps).length := by rw [ends]; simp
  obtain ⟨us, p, ⟨vs, x, y, rfl, cut, place⟩, rfl, number⟩ := h.minus text inside
  obtain ⟨m, first⟩ := h.front
  obtain rfl : tokensOf us = ts := Except.ok.inj ((tokens_of_cut first plain).symm.trans found)
  obtain ⟨e, x', rfl⟩ := exists_of_isNumber (number.mpr ⟨go, by rwa [lastToken_none]⟩)
  have spells := h.spells e (.operand x') (by simp)
  rw [source_append, source_cons] at ends
  have alone := List.append_cancel_left ends
  rw [Part.text] at alone cut
  have size := congrArg List.length alone
  rw [List.length_append, cut] at size
  simp only [List.length_append, List.length_singleton] at size
  rw [List.length_eq_zero_iff.mp (by omega : (source vs).length = 0), List.append_nil] at alone
  exact spells.ne_minus alone

theorem ne_offender {front : List Char} (text : s = before ++ '-' :: after)
    (offends : Offends s front) : front.length ≠ before.length := by
  intro same
  cases offends with
  | character text' illegal =>
      obtain ⟨-, eq⟩ := List.append_inj (text'.symm.trans text) same
      cases eq
      exact absurd illegal (by decide +kernel)
  | run maximal bad =>
      obtain ⟨-, eq⟩ := List.append_inj (maximal.text.symm.trans text) same
      obtain ⟨c, run, rfl⟩ := List.exists_cons_of_ne_nil maximal.ne_nil
      obtain ⟨rfl, -⟩ := List.cons.inj eq
      exact absurd (maximal.numeric '-' List.mem_cons_self) (by decide)

theorem blames_of_fails {fault : Fault} (h : Cut none s ps rest) (plain : s.map plainSign = s)
    (fails : Fails (lastToken none ps) rest fault) : Blames s fault := by
  cases fails with
  | character illegal => exact .character h.text illegal h.noneBefore
  | @run run after ne numeric bad stops =>
      have go := not_stops_run ne numeric after
      have maximal : MaximalRun s (source ps) run after := by
        refine ⟨h.text, ne, numeric, fun c hc => ?_, stops⟩
        cases figure : isNumeric c with
        | false => rfl
        | true => exact absurd (h.boundary c hc figure) go
      exact .run maximal bad h.noneBefore (not_endsSigned h plain go)
  | @negative run after free ne numeric bad stops =>
      have maximal : MaximalRun s (source ps ++ ['-']) run after := by
        refine ⟨by rw [h.text, List.append_assoc]; rfl, ne, numeric, fun c hc => ?_, stops⟩
        rw [List.getLast?_concat] at hc
        cases hc
        decide
      have first : NoneBefore s (source ps ++ ['-']) := by
        intro front offends
        have before := h.noneBefore front offends
        have other := ne_offender h.text offends
        simp only [List.length_append, List.length_singleton]
        omega
      exact .signed maximal bad first
        ⟨source ps, tokensOf ps, rfl, tokens_of_cut h plain, by rwa [← lastToken_none]⟩

theorem Blames.offends {fault : Fault} (h : Blames s fault) : ∃ before, Offends s before := by
  cases h with
  | character text illegal _ => exact ⟨_, .character text illegal⟩
  | run maximal bad _ _ => exact ⟨_, .run maximal bad⟩
  | signed maximal bad _ _ => exact ⟨_, .run maximal bad⟩

theorem tokens_exact (s : List Char) :
    ((∃ ts, tokens read? s = .ok ts) ↔ Legible (s.map plainSign)) ∧
    (∀ ts, tokens read? s = .ok ts → ∃ ps, TakenApart (s.map plainSign) ts ps) ∧
    ∀ fault, tokens read? s = .error fault → Blames (s.map plainSign) fault := by
  have plain : (s.map plainSign).map plainSign = s.map plainSign := by
    rw [List.map_map]
    exact List.map_congr_left fun c _ => plainSign_plainSign c
  rw [legible_iff]
  rcases cut_total none (s.map plainSign) with ⟨ps, all⟩ | ⟨ps, rest, fault, part, fails⟩
  · have found : tokens read? s = .ok (tokensOf ps) := by
      rw [tokens, tokensAfter_of_cut all]
      exact congrArg Except.ok (List.append_nil _)
    have free (before : List Char) : ¬ Offends (s.map plainSign) before := fun offends => by
      have inside := offends.length_lt
      have text := all.text
      rw [List.append_nil] at text
      rw [text] at inside
      exact Nat.not_le_of_lt inside (all.noneBefore before offends)
    refine ⟨iff_of_true ⟨_, found⟩ free, ?_, ?_⟩
    · intro ts found'
      cases found.symm.trans found'
      exact ⟨ps, takenApart_of_cut all⟩
    · intro fault failed
      cases found.symm.trans failed
  · have failed : tokens read? s = .error fault := by
      rw [tokens, tokensAfter_of_cut part, tokensAfter_of_fails fails]
      rfl
    have blames := blames_of_fails part plain fails
    obtain ⟨before, offends⟩ := blames.offends
    refine ⟨iff_of_false ?_ fun free => free before offends, ?_, ?_⟩
    · rintro ⟨ts, found⟩
      cases failed.symm.trans found
    · intro ts found
      cases failed.symm.trans found
    · intro fault' failed'
      cases failed.symm.trans failed'
      exact blames

end Sidekick.Calculator
