import Sidekick.Proofs.Calculator.Grammar

namespace Sidekick.Calculator
open Text Number

/-! ## Pieces -/

theorem pieces_mark {c : Char} (h : isNumeric c = false) (s : List Char) :
    pieces (c :: s) = .mark c :: pieces s := by
  simp [pieces, h]

theorem pieces_run {run rest : List Char} (numeric : ∀ c ∈ run, isNumeric c = true) (ne : run ≠ [])
    (stops : Stops isNumeric rest) : pieces (run ++ rest) = .run run :: pieces rest := by
  induction run with
  | nil => exact absurd rfl ne
  | cons c run ih =>
      have hc := numeric c List.mem_cons_self
      cases run with
      | nil =>
          cases rest with
          | nil => simp [pieces, hc]
          | cons d rest => simp [pieces, hc, stops d rfl]
      | cons d run =>
          have tail := ih (fun e he => numeric e (List.mem_cons_of_mem _ he)) (List.cons_ne_nil _ _)
          rw [List.cons_append, pieces, tail, if_pos hc]

/-! ## Signs and blanks -/

theorem plainSign_of_mem_signs {o : Operator} {c : Char} (h : c ∈ o.signs) :
    plainSign c = o.sign := by
  have all : ∀ c ∈ o.signs, plainSign c = o.sign := by cases o <;> decide
  exact all c h

theorem isNumeric_sign (o : Operator) : isNumeric o.sign = false := by
  cases o <;> decide

theorem mem_of_isNumeric {c : Char} (h : isNumeric c = true) : c ∈ "0123456789.".toList := by
  have all : ∀ c ∈ "0123456789".toList, c ∈ "0123456789.".toList := by decide
  simp only [isNumeric, Bool.or_eq_true, beq_iff_eq] at h
  rcases h with digit | rfl
  · exact all c (mem_digits digit)
  · decide

theorem map_plainSign_of_numeric {s : List Char} (h : ∀ c ∈ s, isNumeric c = true) :
    s.map plainSign = s := by
  have all : ∀ c ∈ "0123456789.".toList, plainSign c = c := by decide
  calc s.map plainSign
    _ = s.map id := List.map_congr_left fun c hc => all c (mem_of_isNumeric (h c hc))
    _ = s := List.map_id s

theorem isNumeric_of_isBlank {c : Char} (h : isBlank c = true) : isNumeric c = false := by
  have all : ∀ c ∈ "0123456789.".toList, isBlank c = false := by decide
  cases numeric : isNumeric c with
  | false => rfl
  | true => rw [all c (mem_of_isNumeric numeric)] at h; cases h

theorem plainSign_of_isBlank {c : Char} (h : isBlank c = true) : plainSign c = c := by
  have other : c ∉ ['−', '–', '—', '×', '÷'] := by
    intro mem
    have all : ∀ c ∈ ['−', '–', '—', '×', '÷'], isBlank c = false := by decide
    rw [all c mem] at h
    cases h
  simp only [List.mem_cons, List.not_mem_nil, or_false, not_or] at other
  simp [plainSign, other]

theorem map_plainSign_of_blanks {u : List Char} (h : Blanks u) : u.map plainSign = u :=
  calc u.map plainSign = u.map id := List.map_congr_left fun c hc => plainSign_of_isBlank (h c hc)
    _ = u := List.map_id u

theorem stops_isNumeric_of_blanks {u rest : List Char} (h : Blanks u)
    (stops : Stops isNumeric rest) : Stops isNumeric (u ++ rest) :=
  stops_append (fun c hc => isNumeric_of_isBlank (h c hc)) stops

theorem IsLiteral.isNumeric {s : List Char} (h : IsLiteral s) : ∀ c ∈ s, isNumeric c = true := by
  intro c hc
  simpa [Calculator.isNumeric] using h.numeric c hc

theorem IsLiteral.ne_nil {s : List Char} (h : IsLiteral s) : s ≠ [] := by
  rintro rfl
  obtain ⟨c, hc, -⟩ := h.digit
  cases hc

/-! ## Tokens one by one -/

variable {α : Type} {read : List Char → Option α} {last : Option (Token α)}

theorem tokensAfter_mark {c : Char} (h : c ≠ '-') (rest : List Piece) :
    tokensAfter read last (.mark c :: rest) =
      if isBlank c then tokensAfter read last rest
      else do
        let t ← markToken c
        return t :: (← tokensAfter read (some t) rest) := by
  rw [tokensAfter]
  intro text rest' _ hc
  exact h hc

theorem tokensAfter_blanks {u : List Char} (h : Blanks u) (s : List Char) :
    tokensAfter read last (pieces (u ++ s)) = tokensAfter read last (pieces s) := by
  induction u with
  | nil => rfl
  | cons c u ih =>
      have blank := h c List.mem_cons_self
      have ne : c ≠ '-' := by
        rintro rfl
        exact absurd blank (by decide)
      rw [List.cons_append, pieces_mark (isNumeric_of_isBlank blank), tokensAfter_mark ne,
        if_pos blank]
      exact ih fun d hd => h d (List.mem_cons_of_mem _ hd)

theorem tokensAfter_literal {s rest : List Char} {x : α} (h : IsLiteral s) (value : read s = some x)
    (stops : Stops isNumeric rest) :
    tokensAfter read last (pieces (s ++ rest)) =
      (.operand x :: ·) <$> tokensAfter read (some (.operand x)) (pieces rest) := by
  rw [pieces_run h.isNumeric h.ne_nil stops, tokensAfter, operand, value]
  rfl

theorem tokensAfter_negative {s rest : List Char} {x : α} (h : IsLiteral s)
    (value : read ('-' :: s) = some x) (stops : Stops isNumeric rest)
    (free : operandMayFollow last = true) :
    tokensAfter read last (pieces ('-' :: (s ++ rest))) =
      (.operand x :: ·) <$> tokensAfter read (some (.operand x)) (pieces rest) := by
  rw [pieces_mark (by decide), pieces_run h.isNumeric h.ne_nil stops, tokensAfter, if_pos free,
    operand, value]
  rfl

theorem tokensAfter_operator (o : Operator) (s : List Char) (full : operandMayFollow last = false) :
    tokensAfter read last (pieces (o.sign :: s)) =
      (.operator o :: ·) <$> tokensAfter read (some (.operator o)) (pieces s) := by
  rw [pieces_mark (isNumeric_sign o)]
  cases o with
  | sub =>
      rw [show Operator.sub.sign = '-' from rfl]
      cases hp : pieces s with
      | nil => rfl
      | cons p rest =>
          cases p with
          | mark c => rfl
          | run text =>
              simp only [tokensAfter, full, Bool.false_eq_true, if_false]
              cases operand read text with
              | error fault => rfl
              | ok t =>
                  simp only [bind, Except.bind]
                  cases tokensAfter read (some t) rest <;> rfl
  | add => exact tokensAfter_mark (by decide) _
  | mul => exact tokensAfter_mark (by decide) _
  | div => exact tokensAfter_mark (by decide) _

theorem tokensAfter_opening (s : List Char) :
    tokensAfter read last (pieces ('(' :: s)) =
      (.opening :: ·) <$> tokensAfter read (some .opening) (pieces s) := by
  rw [pieces_mark (by decide)]
  exact tokensAfter_mark (by decide) _

theorem tokensAfter_closing (s : List Char) :
    tokensAfter read last (pieces (')' :: s)) =
      (.closing :: ·) <$> tokensAfter read (some .closing) (pieces s) := by
  rw [pieces_mark (by decide)]
  exact tokensAfter_mark (by decide) _

/-! ## The tokens of a phrase -/

def Lexes (read : List Char → Option α) (s : List Char) (ts : List (Token α)) : Prop :=
  ∀ last rest, operandMayFollow last = true → Stops isNumeric rest →
    tokensAfter read last (pieces (s.map plainSign ++ rest)) =
      (ts ++ ·) <$> tokensAfter read ts.getLast? (pieces rest)

theorem getLast?_append_operator {ts us : List (Token α)} (o : Operator)
    (full : operandMayFollow us.getLast? = false) :
    (ts ++ .operator o :: us).getLast? = us.getLast? := by
  cases final : us.getLast? with
  | none => rw [final] at full; cases full
  | some u => simp [List.getLast?_append, List.getLast?_cons, final]

theorem operandMayFollow_getLast? {p : Phrase} {ts : List (Token α)} {t : Tree α}
    (h : Infix p ts t) : operandMayFollow ts.getLast? = false := by
  induction h with
  | operand x => rfl
  | group => rw [← List.cons_append, List.getLast?_concat]; rfl
  | tighter _ ih => exact ih
  | apply _ _ _ ih => rwa [getLast?_append_operator _ ih]

theorem lexes_literal {s : List Char} {x : α} (h : IsLiteral s) (value : read s = some x) :
    Lexes read s [.operand x] := by
  intro last rest _ stops
  rw [map_plainSign_of_numeric h.isNumeric, tokensAfter_literal h value stops]
  rfl

theorem lexes_negative {c : Char} {s : List Char} {x : α} (minus : c ∈ Operator.sub.signs)
    (h : IsLiteral s) (value : read ('-' :: s) = some x) : Lexes read (c :: s) [.operand x] := by
  intro last rest free stops
  rw [List.map_cons, plainSign_of_mem_signs minus, map_plainSign_of_numeric h.isNumeric]
  exact tokensAfter_negative h value stops free

theorem lexes_group {u s v : List Char} {ts : List (Token α)} (hu : Blanks u)
    (inner : Lexes read s ts) (hv : Blanks v) :
    Lexes read ('(' :: (u ++ (s ++ (v ++ [')'])))) (.opening :: (ts ++ [.closing])) := by
  intro last rest _ stops
  have text : ('(' :: (u ++ (s ++ (v ++ [')'])))).map plainSign ++ rest =
      '(' :: (u ++ (s.map plainSign ++ (v ++ ')' :: rest))) := by
    simp [map_plainSign_of_blanks hu, map_plainSign_of_blanks hv, plainSign]
  have after : Stops isNumeric (v ++ ')' :: rest) :=
    stops_isNumeric_of_blanks hv (stops_cons (by decide) rest)
  rw [text, tokensAfter_opening, tokensAfter_blanks hu, inner _ _ rfl after, tokensAfter_blanks hv,
    tokensAfter_closing, ← List.cons_append, List.getLast?_concat]
  simp only [Functor.map_map]
  simp

theorem lexes_apply {o : Operator} {c : Char} {s u v r : List Char} {ts us : List (Token α)}
    (left : Lexes read s ts) (full : operandMayFollow ts.getLast? = false) (hu : Blanks u)
    (sign : c ∈ o.signs) (hv : Blanks v) (right : Lexes read r us)
    (full' : operandMayFollow us.getLast? = false) :
    Lexes read (s ++ (u ++ c :: (v ++ r))) (ts ++ .operator o :: us) := by
  intro last rest free stops
  have text : (s ++ (u ++ c :: (v ++ r))).map plainSign ++ rest =
      s.map plainSign ++ (u ++ o.sign :: (v ++ (r.map plainSign ++ rest))) := by
    simp [map_plainSign_of_blanks hu, map_plainSign_of_blanks hv, plainSign_of_mem_signs sign]
  have after : Stops isNumeric (u ++ o.sign :: (v ++ (r.map plainSign ++ rest))) :=
    stops_isNumeric_of_blanks hu (stops_cons (isNumeric_sign o) _)
  rw [text, left _ _ free after, tokensAfter_blanks hu, tokensAfter_operator o _ full,
    tokensAfter_blanks hv, right _ _ rfl stops, getLast?_append_operator o full']
  simp only [Functor.map_map]
  simp

theorem lexes_phrase {p : Phrase} {s : List Char} {t : Tree (List Char)} {t' : Tree α}
    (h : Derives p s t) (value : t.read? read = some t') :
    ∃ ts, Infix p ts t' ∧ Lexes read s ts := by
  induction h generalizing t' with
  | literal hl =>
      obtain ⟨x, hx, rfl⟩ := Option.map_eq_some_iff.mp value
      exact ⟨[.operand x], .operand x, lexes_literal hl hx⟩
  | negative minus hl =>
      obtain ⟨x, hx, rfl⟩ := Option.map_eq_some_iff.mp value
      exact ⟨[.operand x], .operand x, lexes_negative minus hl hx⟩
  | group hu _ hv ih =>
      obtain ⟨ts, order, inner⟩ := ih value
      exact ⟨_, .group order, lexes_group hu inner hv⟩
  | tighter _ ih =>
      obtain ⟨ts, order, inner⟩ := ih value
      exact ⟨ts, .tighter order, inner⟩
  | apply _ hu sign hv _ iha ihb =>
      obtain ⟨a', b', ha, hb, rfl⟩ := Tree.read?_node value
      obtain ⟨ts, order, left⟩ := iha ha
      obtain ⟨us, order', right⟩ := ihb hb
      have full := operandMayFollow_getLast? order
      have full' := operandMayFollow_getLast? order'
      exact ⟨_, .apply order order', lexes_apply left full hu sign hv right full'⟩

theorem tokens_expression {s : List Char} {t : Tree (List Char)} {t' : Tree α}
    (h : Expression s t) (value : t.read? read = some t') :
    ∃ ts, Infix .sum ts t' ∧ tokens read s = .ok ts := by
  obtain ⟨u, e, v, hu, derives, hv, rfl⟩ := h
  obtain ⟨ts, order, lexes⟩ := lexes_phrase derives value
  refine ⟨ts, order, ?_⟩
  have text : (u ++ (e ++ v)).map plainSign = u ++ (e.map plainSign ++ (v ++ [])) := by
    simp [map_plainSign_of_blanks hu, map_plainSign_of_blanks hv]
  have after : Stops isNumeric (v ++ []) := stops_isNumeric_of_blanks hv (stops_nil _)
  rw [tokens, text, tokensAfter_blanks hu, lexes _ _ rfl after, tokensAfter_blanks hv, pieces,
    tokensAfter]
  simp [Functor.map, Except.map]

end Sidekick.Calculator
