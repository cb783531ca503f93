import Sidekick.Proofs.Calculator.Cutting

namespace Sidekick.Calculator
open Text Number

variable {last : Option (Token Float)} {s rest before run after : List Char} {ps us vs : List Part}

/-! ## Maximal runs -/

theorem stops_of_append {p : Char → Bool} {a b : List Char} (h : Stops p (a ++ b)) : Stops p a := by
  intro c hc
  refine h c ?_
  rw [List.head?_append, hc, Option.some_or]
  exact rfl

namespace MaximalRun

theorem tail_of_other {c : Char} (h : MaximalRun (c :: s) before run after)
    (other : isNumeric c = false) :
    ∃ front, before = c :: front ∧ MaximalRun s front run after := by
  cases before with
  | nil =>
      obtain ⟨d, run, rfl⟩ := List.exists_cons_of_ne_nil h.ne_nil
      obtain ⟨rfl, -⟩ := List.cons.inj h.text
      rw [h.numeric c List.mem_cons_self] at other
      cases other
  | cons d front =>
      obtain ⟨rfl, text⟩ := List.cons.inj h.text
      refine ⟨front, rfl, text, h.ne_nil, h.numeric, fun d hd => h.first d ?_, h.last⟩
      rw [List.getLast?_cons, hd]
      exact rfl

theorem tail_of_run {figures : List Char} (h : MaximalRun (figures ++ s) before run after)
    (numeric : ∀ c ∈ figures, isNumeric c = true) (stops : Stops isNumeric s) :
    before = [] ∧ run = figures ∨
      ∃ front, before = figures ++ front ∧ MaximalRun s front run after := by
  rcases List.append_eq_append_iff.mp h.text with ⟨a, rfl, text⟩ | ⟨a, eq, text⟩
  · refine .inr ⟨a, rfl, text, h.ne_nil, h.numeric, fun d hd => h.first d ?_, h.last⟩
    rw [List.getLast?_append, hd]
    exact rfl
  · have empty : before = [] := by
      rcases List.eq_nil_or_concat before with empty | ⟨front, c, rfl⟩
      · exact empty
      · have figure := numeric c (by simp [eq])
        rw [h.first c (by simp)] at figure
        cases figure
    subst empty
    rw [List.nil_append] at eq
    subst eq
    refine .inl ⟨rfl, ?_⟩
    rw [← takeWhile_run h.numeric h.last, text, takeWhile_run numeric stops]

end MaximalRun

theorem exists_maximalRun_iff (text : s = before ++ '-' :: after) :
    (∃ run rest, MaximalRun s (before ++ ['-']) run rest) ↔ ¬ Stops isNumeric after := by
  subst text
  constructor
  · rintro ⟨run, rest, h⟩ stops
    have same : '-' :: after = '-' :: (run ++ rest) :=
      List.append_cancel_left (h.text.trans (List.append_assoc _ ['-'] _))
    obtain ⟨-, rfl⟩ := List.cons.inj same
    exact not_stops_run h.ne_nil h.numeric rest stops
  · intro go
    obtain ⟨run, rest, rfl, ne, numeric, stops⟩ := exists_run go
    refine ⟨run, rest, (List.append_assoc _ ['-'] _).symm, ne, numeric, fun c hc => ?_, stops⟩
    rw [List.getLast?_concat] at hc
    cases hc
    decide

/-! ## Parts of a text -/

theorem source_cons (p : Part) (ps : List Part) : source (p :: ps) = p.text ++ source ps :=
  List.flatMap_cons

theorem source_append (us vs : List Part) : source (us ++ vs) = source us ++ source vs :=
  List.flatMap_append

namespace Cut

theorem text (h : Cut last s ps rest) : s = source ps ++ rest := by
  induction h with
  | done => rfl
  | blank _ _ ih => rw [source_cons, List.append_assoc, ← ih]; rfl
  | run _ _ _ _ ih => rw [source_cons, List.append_assoc, ← ih]; rfl
  | negative _ _ _ _ _ ih => rw [source_cons, List.append_assoc, ← ih]; rfl
  | mark _ _ _ ih => rw [source_cons, List.append_assoc, ← ih]; rfl

-- What was cut off is cut in the same way without the rest.
theorem whole (h : Cut last s ps rest) : Cut last (source ps) ps [] := by
  induction h with
  | done => exact .done
  | blank blank _ ih => exact .blank blank ih
  | run literal value stops tail ih =>
      exact .run literal value (stops_of_append (tail.text ▸ stops)) ih
  | negative free literal value stops tail ih =>
      rw [source_cons]
      exact .negative free literal value (stops_of_append (tail.text ▸ stops)) ih
  | mark mark alone tail ih =>
      exact .mark mark (fun dash free => stops_of_append (tail.text ▸ alone dash free)) ih

theorem front (h : Cut last s (us ++ vs) rest) : ∃ m, Cut last s us m := by
  induction us generalizing last s with
  | nil => exact ⟨s, .done⟩
  | cons u us ih =>
      cases h with
      | blank blank tail =>
          obtain ⟨m, cut⟩ := ih tail
          exact ⟨m, .blank blank cut⟩
      | run literal value stops tail =>
          obtain ⟨m, cut⟩ := ih tail
          exact ⟨m, .run literal value stops cut⟩
      | negative free literal value stops tail =>
          obtain ⟨m, cut⟩ := ih tail
          exact ⟨m, .negative free literal value stops cut⟩
      | mark mark alone tail =>
          obtain ⟨m, cut⟩ := ih tail
          exact ⟨m, .mark mark alone cut⟩

-- A run is not cut in two.
theorem boundary (h : Cut last s ps rest) :
    ∀ c ∈ (source ps).getLast?, isNumeric c = true → Stops isNumeric rest := by
  have step {a t : List Char} {goal : Prop}
      (first : ∀ c ∈ a.getLast?, isNumeric c = true → t = [] → goal)
      (later : ∀ c ∈ t.getLast?, isNumeric c = true → goal) :
      ∀ c ∈ (a ++ t).getLast?, isNumeric c = true → goal := by
    intro c hc figure
    rw [List.getLast?_append] at hc
    cases ends : t.getLast? with
    | none =>
        rw [ends] at hc
        exact first c hc figure (List.getLast?_eq_none_iff.mp ends)
    | some d =>
        rw [ends] at hc
        exact later c (ends ▸ hc) figure
  induction h with
  | done => exact fun _ hc => nomatch hc
  | @blank _ c _ _ _ blank _ ih =>
      rw [source_cons]
      refine step (fun d hd figure => ?_) ih
      obtain rfl : c = d := Option.some.inj hd
      rw [isNumeric_of_isBlank blank] at figure
      cases figure
  | run _ _ stops tail ih | negative _ _ _ stops tail ih =>
      rw [source_cons]
      refine step (fun _ _ _ empty => ?_) ih
      rwa [tail.text, empty] at stops
  | @mark _ c _ _ _ _ mark _ _ ih =>
      rw [source_cons]
      refine step (fun d hd figure => ?_) ih
      obtain rfl : c = d := Option.some.inj hd
      rw [mark.plain.2.1] at figure
      cases figure

theorem legal (h : Cut last s ps rest) : ∀ c ∈ source ps, isLegal c = true := by
  have minus : isLegal '-' = true := by decide +kernel
  induction h with
  | done => exact fun _ hc => nomatch hc
  | blank blank _ ih => exact List.forall_mem_cons.mpr ⟨by rw [isLegal, blank]; rfl, ih⟩
  | run literal _ _ _ ih =>
      exact List.forall_mem_append.mpr
        ⟨fun c hc => isLegal_of_isNumeric (literal.isNumeric c hc), ih⟩
  | negative _ literal _ _ _ ih =>
      exact List.forall_mem_cons.mpr ⟨minus, List.forall_mem_append.mpr
        ⟨fun c hc => isLegal_of_isNumeric (literal.isNumeric c hc), ih⟩⟩
  | mark mark _ _ ih => exact List.forall_mem_cons.mpr ⟨mark.plain.2.2, ih⟩

theorem blanks (h : Cut last s ps rest) : ∀ c, .blank c ∈ ps → isBlank c = true := by
  induction h with
  | done => exact fun _ hc => nomatch hc
  | blank blank _ ih =>
      intro c hc
      cases hc with
      | head => exact blank
      | tail _ hc => exact ih c hc
  | run _ _ _ _ ih | negative _ _ _ _ _ ih | mark _ _ _ ih =>
      intro c hc
      cases hc with
      | tail _ hc => exact ih c hc

theorem spells (h : Cut last s ps rest) : ∀ e t, .token e t ∈ ps → Spells e t := by
  have marks {c : Char} {t : Token Float} (mark : IsMark c t) : Spells [c] t := by
    cases mark with
    | operator o => exact .operator (by cases o <;> decide)
    | opening => exact .opening
    | closing => exact .closing
  induction h with
  | done => exact fun _ _ ht => nomatch ht
  | blank _ _ ih =>
      intro e t ht
      cases ht with
      | tail _ ht => exact ih e t ht
  | run literal value _ _ ih =>
      intro e t ht
      cases ht with
      | head => exact .literal literal value
      | tail _ ht => exact ih e t ht
  | negative _ literal value _ _ ih =>
      intro e t ht
      cases ht with
      | head => exact .negative (by decide) literal value
      | tail _ ht => exact ih e t ht
  | mark mark _ _ ih =>
      intro e t ht
      cases ht with
      | head => exact marks mark
      | tail _ ht => exact ih e t ht

end Cut

theorem Spells.plain {e : List Char} {t : Token Float} (h : Spells e t) :
    ∀ c ∈ e, isBlank c = false := by
  have figures {run : List Char} (literal : IsLiteral run) : ∀ c ∈ run, isBlank c = false := by
    intro c hc
    cases blank : isBlank c with
    | false => rfl
    | true =>
        have figure := literal.isNumeric c hc
        rw [isNumeric_of_isBlank blank] at figure
        cases figure
  have signs : ∀ o : Operator, ∀ c ∈ o.signs, isBlank c = false := by
    intro o
    cases o <;> decide +kernel
  cases h with
  | literal literal _ => exact figures literal
  | negative minus literal _ => exact List.forall_mem_cons.mpr ⟨signs _ _ minus, figures literal⟩
  | operator sign => exact List.forall_mem_singleton.mpr (signs _ _ sign)
  | opening => decide +kernel
  | closing => decide +kernel

theorem flatten_sources (blanks : ∀ c, .blank c ∈ ps → isBlank c = true)
    (spells : ∀ e t, .token e t ∈ ps → Spells e t) :
    (ps.filterMap Part.source?).flatten = (source ps).filter (!isBlank ·) := by
  induction ps with
  | nil => rfl
  | cons p ps ih =>
      have rest := ih (fun c hc => blanks c (List.mem_cons_of_mem _ hc))
        (fun e t ht => spells e t (List.mem_cons_of_mem _ ht))
      rw [source_cons, List.filter_append, ← rest]
      cases p with
      | blank c =>
          have none : [c].filter (!isBlank ·) = [] := by simp [blanks c List.mem_cons_self]
          rw [Part.text, none]
          rfl
      | token e t =>
          have all : e.filter (!isBlank ·) = e := by
            rw [List.filter_eq_self]
            intro c hc
            rw [(spells e t List.mem_cons_self).plain c hc]
            rfl
          rw [Part.text, all]
          rfl

/-! ## Where a part lies -/

/-- The text `e` behind `before` lies in the part `p`, which stands behind the parts `us`. -/
def Lies (ps us : List Part) (p : Part) (before e : List Char) : Prop :=
  ∃ vs x y, ps = us ++ p :: vs ∧ p.text = x ++ (e ++ y) ∧ source us ++ x = before

theorem Lies.cons {p q : Part} {e : List Char} (h : Lies ps us p before e) :
    Lies (q :: ps) (q :: us) p (q.text ++ before) e := by
  obtain ⟨vs, x, y, rfl, text, rfl⟩ := h
  exact ⟨vs, x, y, rfl, text, by rw [source_cons, List.append_assoc]⟩

theorem Lies.unique {p q : Part} {e : List Char} (ne : e ≠ []) (hp : Lies ps us p before e)
    (hq : Lies ps vs q before e) : us = vs ∧ p = q := by
  induction ps generalizing us vs before with
  | nil =>
      obtain ⟨_, _, _, eq, -⟩ := hp
      simp at eq
  | cons r ps ih =>
      obtain ⟨us', x, y, eq, text, rfl⟩ := hp
      obtain ⟨vs', x', y', eq', text', at'⟩ := hq
      have some : 0 < e.length := List.length_pos_iff.mpr ne
      have places := congrArg List.length at'
      have size := congrArg List.length text
      have size' := congrArg List.length text'
      cases us with
      | nil =>
          obtain ⟨rfl, rfl⟩ := List.cons.inj eq
          cases vs with
          | nil => exact ⟨rfl, (List.cons.inj eq').1⟩
          | cons v vs =>
              obtain ⟨rfl, -⟩ := List.cons.inj eq'
              rw [source_cons] at places
              simp only [List.length_append, source, List.flatMap_nil, List.length_nil]
                at places size
              omega
      | cons u us =>
          obtain ⟨rfl, left⟩ := List.cons.inj eq
          cases vs with
          | nil =>
              obtain ⟨rfl, -⟩ := List.cons.inj eq'
              rw [source_cons] at places
              simp only [List.length_append, source, List.flatMap_nil, List.length_nil]
                at places size'
              omega
          | cons v vs =>
              obtain ⟨rfl, right⟩ := List.cons.inj eq'
              rw [source_cons, source_cons, List.append_assoc, List.append_assoc] at at'
              obtain ⟨rfl, same⟩ := ih ⟨us', x, y, left, text, rfl⟩
                ⟨vs', x', y', right, text', List.append_cancel_left at'⟩
              exact ⟨rfl, same⟩

theorem Lies.first {p : Part} {e y : List Char} (vs : List Part) (text : p.text = e ++ y) :
    Lies (p :: vs) [] p [] e :=
  ⟨vs, [], y, rfl, text, rfl⟩

theorem IsMark.isNumber {c : Char} {t : Token Float} (h : IsMark c t) (e : List Char) :
    Part.isNumber (.token e t) = false := by
  cases h <;> rfl

/-- A minus begins a part, which is a number just where an operand may begin. -/
def MinusAt (last : Option (Token Float)) (ps : List Part) (before after : List Char) : Prop :=
  ∃ us p, Lies ps us p before ['-'] ∧ source us = before ∧
    (p.isNumber = true ↔ ¬ Stops isNumeric after ∧ operandMayFollow (lastToken last us) = true)

theorem MinusAt.cons {last' : Option (Token Float)} {q : Part} (h : MinusAt last' ps before after)
    (passed : ∀ us, lastToken last (q :: us) = lastToken last' us) :
    MinusAt last (q :: ps) (q.text ++ before) after := by
  obtain ⟨us, p, lies, place, number⟩ := h
  exact ⟨q :: us, p, lies.cons, by rw [source_cons, place], passed us ▸ number⟩

theorem exists_front {figures : List Char} (numeric : ∀ c ∈ figures, isNumeric c = true)
    (text : figures ++ s = before ++ '-' :: after) :
    ∃ front, before = figures ++ front ∧ s = front ++ '-' :: after := by
  rcases List.append_eq_append_iff.mp text with ⟨a, eq, rest⟩ | ⟨a, eq, rest⟩
  · exact ⟨a, eq, rest⟩
  · cases a with
    | nil => exact ⟨[], by rw [eq, List.append_nil, List.append_nil], rest.symm⟩
    | cons c a =>
        obtain ⟨rfl, -⟩ := List.cons.inj rest
        exact absurd (numeric '-' (eq ▸ List.mem_append_right _ List.mem_cons_self)) (by decide)

namespace Cut

theorem number (h : Cut last s ps rest) (maximal : MaximalRun s before run after)
    (inside : before.length < (source ps).length) :
    IsLiteral run ∧ ∃ us p, Lies ps us p before run ∧ p.isNumber = true := by
  induction h generalizing before with
  | done => exact absurd inside (Nat.not_lt_zero _)
  | blank blank _ ih =>
      obtain ⟨front, rfl, behind⟩ := maximal.tail_of_other (isNumeric_of_isBlank blank)
      obtain ⟨literal, us, p, lies, number⟩ := ih behind (Nat.lt_of_succ_lt_succ inside)
      exact ⟨literal, _, p, lies.cons, number⟩
  | @run _ figures _ _ x ps literal value stops _ ih =>
      rw [source_cons, List.length_append, Part.text] at inside
      rcases maximal.tail_of_run literal.isNumeric stops with ⟨rfl, rfl⟩ | ⟨front, rfl, behind⟩
      · exact ⟨literal, [], _, .first ps (List.append_nil _).symm, rfl⟩
      · rw [List.length_append] at inside
        obtain ⟨literal, us, p, lies, number⟩ := ih behind (by omega)
        exact ⟨literal, _, p, lies.cons, number⟩
  | @negative _ figures _ _ x ps _ literal value stops _ ih =>
      rw [source_cons, List.length_append, Part.text, List.length_cons] at inside
      obtain ⟨front, rfl, behind⟩ := maximal.tail_of_other (by decide)
      rcases behind.tail_of_run literal.isNumeric stops with ⟨rfl, rfl⟩ | ⟨front, rfl, next⟩
      · exact ⟨literal, [], _, ⟨ps, ['-'], [], rfl, by rw [List.append_nil]; rfl, rfl⟩, rfl⟩
      · rw [List.length_cons, List.length_append] at inside
        obtain ⟨literal, us, p, lies, number⟩ := ih next (by omega)
        exact ⟨literal, _, p, lies.cons, number⟩
  | mark mark _ _ ih =>
      obtain ⟨front, rfl, behind⟩ := maximal.tail_of_other mark.plain.2.1
      obtain ⟨literal, us, p, lies, number⟩ := ih behind (Nat.lt_of_succ_lt_succ inside)
      exact ⟨literal, _, p, lies.cons, number⟩

theorem minus (h : Cut last s ps rest) (text : s = before ++ '-' :: after)
    (inside : before.length < (source ps).length) : MinusAt last ps before after := by
  induction h generalizing before with
  | done => exact absurd inside (Nat.not_lt_zero _)
  | blank blank _ ih =>
      cases before with
      | nil =>
          obtain ⟨rfl, -⟩ := List.cons.inj text
          exact absurd blank (by decide)
      | cons c front =>
          obtain ⟨rfl, behind⟩ := List.cons.inj text
          exact (ih behind (Nat.lt_of_succ_lt_succ inside)).cons fun _ => rfl
  | run literal value stops _ ih =>
      rw [source_cons, List.length_append, Part.text] at inside
      obtain ⟨front, rfl, behind⟩ := exists_front literal.isNumeric text
      rw [List.length_append] at inside
      exact (ih behind (by omega)).cons fun _ => lastToken_token _ _
  | @negative _ figures t _ x ps free literal value stops _ ih =>
      rw [source_cons, List.length_append, Part.text, List.length_cons] at inside
      cases before with
      | nil =>
          obtain ⟨-, rfl⟩ := List.cons.inj text
          refine ⟨[], _, .first ps (List.singleton_append ..).symm, rfl, iff_of_true rfl ⟨?_, free⟩⟩
          exact not_stops_run literal.ne_nil literal.isNumeric t
      | cons c front =>
          obtain ⟨rfl, behind⟩ := List.cons.inj text
          obtain ⟨front, rfl, next⟩ := exists_front literal.isNumeric behind
          rw [List.length_cons, List.length_append] at inside
          exact (ih next (by omega)).cons fun _ => lastToken_token _ _
  | @mark last c t s _ ps mark alone _ ih =>
      cases before with
      | nil =>
          obtain ⟨rfl, rfl⟩ := List.cons.inj text
          have other : Part.isNumber (.token ['-'] t) = false := mark.isNumber _
          refine ⟨[], _, .first ps (List.append_nil _).symm, rfl, iff_of_false ?_ ?_⟩
          · rw [other]
            exact Bool.false_ne_true
          · exact fun ⟨go, free⟩ => go (alone rfl free)
      | cons d front =>
          obtain ⟨rfl, behind⟩ := List.cons.inj text
          exact (ih behind (Nat.lt_of_succ_lt_succ inside)).cons fun _ => lastToken_token _ _

end Cut

end Sidekick.Calculator
