import Sidekick.Proofs.Calculator.Lexing
import Sidekick.Proofs.Results

namespace Sidekick.Calculator
open Text Number

inductive Spells : List Char → Token Float → Prop
  | literal {s : List Char} {x : Float} : IsLiteral s → read? s = some x → Spells s (.operand x)
  | negative {c : Char} {s : List Char} {x : Float} : c ∈ Operator.sub.signs → IsLiteral s →
      read? ('-' :: s) = some x → Spells (c :: s) (.operand x)
  | operator {o : Operator} {c : Char} : c ∈ o.signs → Spells [c] (.operator o)
  | opening : Spells ['('] .opening
  | closing : Spells [')'] .closing

inductive Spelled : List Char → List (Token Float) → Prop
  | nil : Spelled [] []
  | blank {c : Char} {s : List Char} {ts : List (Token Float)} : isBlank c = true →
      Spelled s ts → Spelled (c :: s) ts
  | token {e s : List Char} {t : Token Float} {ts : List (Token Float)} : Spells e t →
      Spelled s ts → Spelled (e ++ s) (t :: ts)

/-! ## Readable literals -/

theorem count_point_of_allDigits {s : List Char} (h : AllDigits s) : s.count '.' = 0 :=
  List.count_eq_zero.mpr fun mem => absurd (h '.' mem) (by decide)

theorem exists_digit {s t : List Char} (hs : AllDigits s) (ht : AllDigits t)
    (ne : ¬ (s = [] ∧ t = [])) : ∃ c ∈ s ++ t, c.isDigit = true := by
  cases s with
  | cons c s => exact ⟨c, List.mem_cons_self, hs c List.mem_cons_self⟩
  | nil =>
      cases t with
      | cons c t => exact ⟨c, List.mem_cons_self, ht c List.mem_cons_self⟩
      | nil => exact absurd ⟨rfl, rfl⟩ ne

theorem isLiteral_of_unsigned? {negative : Bool} {s : List Char}
    (numeric : ∀ c ∈ s, c.isDigit = true ∨ c = '.') (h : (unsigned? negative s).isSome = true) :
    IsLiteral s := by
  obtain ⟨whole, rest, hw, rfl, rfl | ⟨t, rfl⟩⟩ := numeric_parts numeric
  · have stops := stops_nil Char.isDigit
    rw [unsigned?, takeWhile_run hw stops, dropWhile_run hw stops] at h
    have ne : ¬ (whole = [] ∧ ([] : List Char) = []) := by
      rintro ⟨rfl, -⟩
      simp at h
    refine ⟨numeric, ?_, ?_⟩
    · simpa using exists_digit hw (t := []) (by simp [AllDigits]) ne
    · rw [List.append_nil, count_point_of_allDigits hw]
      exact Nat.zero_le 1
  · have behind : ∀ c ∈ t, c.isDigit = true ∨ c = '.' := fun c hc =>
      numeric c (List.mem_append_right _ (List.mem_cons_of_mem _ hc))
    obtain ⟨fraction, rest, hf, rfl, rfl | ⟨u, rfl⟩⟩ := numeric_parts behind
    · have stops : Stops Char.isDigit ('.' :: (fraction ++ [])) := stops_cons (by decide) _
      rw [unsigned?, takeWhile_run hw stops, dropWhile_run hw stops] at h
      simp only [takeWhile_run hf (stops_nil _), dropWhile_run hf (stops_nil _)] at h
      have ne : ¬ (whole = [] ∧ fraction = []) := by
        rintro ⟨rfl, rfl⟩
        simp at h
      obtain ⟨c, hc, digit⟩ := exists_digit hw hf ne
      refine ⟨numeric, ⟨c, ?_, digit⟩, ?_⟩
      · rcases List.mem_append.mp hc with hc | hc
        · exact List.mem_append_left _ hc
        · simp [hc]
      · simp [count_point_of_allDigits hw, count_point_of_allDigits hf]
    · -- A second point is no exponent.
      have stops : Stops Char.isDigit ('.' :: (fraction ++ '.' :: u)) := stops_cons (by decide) _
      have stops' : Stops Char.isDigit ('.' :: u) := stops_cons (by decide) _
      rw [unsigned?, takeWhile_run hw stops, dropWhile_run hw stops] at h
      simp [takeWhile_run hf stops', dropWhile_run hf stops', exponent?] at h

theorem isLiteral_of_read? {sign s : List Char} {x : Float} (hs : IsSign sign)
    (numeric : ∀ c ∈ s, isNumeric c = true) (h : read? (sign ++ s) = some x) : IsLiteral s := by
  have figures : ∀ c ∈ "0123456789.".toList, c ∈ numeralChars ∧ isSignChar c = false ∧
      c.toLower ≠ 'i' ∧ c.toLower ≠ 'n' := by decide
  have plain : ∀ c ∈ sign ++ s, c ∈ numeralChars := by
    intro c hc
    rcases List.mem_append.mp hc with hc | hc
    · exact mem_numeralChars_of_isSign hs c hc
    · exact (figures c (mem_of_isNumeric (numeric c hc))).1
  have stops : Stops isSignChar s :=
    stops_of_forall fun c hc => (figures c (mem_of_isNumeric (numeric c hc))).2.1
  have grouped := ungroup_of_not_mem Char.isDigit (fun mem => absurd (plain '_' mem) (by decide))
    (show ' ' ≠ '_' by decide)
  have word : ∀ c ∈ s.head?, c.toLower ≠ 'i' ∧ c.toLower ≠ 'n' := fun c hc =>
    (figures c (mem_of_isNumeric (numeric c (List.mem_of_mem_head? hc)))).2.2
  have finite : ¬ (s.map Char.toLower = "inf".toList ∨ s.map Char.toLower = "infinity".toList) := by
    cases s with
    | nil => decide
    | cons c s =>
        rintro (eq | eq)
        · exact (word c rfl).1 (List.cons.inj eq).1
        · exact (word c rfl).1 (List.cons.inj eq).1
  have number : ¬ s.map Char.toLower = "nan".toList := by
    cases s with
    | nil => decide
    | cons c s => exact fun eq => (word c rfl).2 (List.cons.inj eq).1
  rw [read?, map_plainDigit plain, grouped] at h
  simp only [Option.bind_eq_bind, Option.bind_some, takeSign_append hs stops, if_neg finite,
    if_neg number] at h
  apply @isLiteral_of_unsigned? (decide (sign = ['-']))
  · intro c hc
    simpa [isNumeric] using numeric c hc
  · rw [← Option.isSome_map, h, Option.isSome_some]

/-! ## The text of tokens -/

theorem plainSign_eq_or (c : Char) : plainSign c = c ∨ plainSign c ∈ ['-', '*', '/'] := by
  unfold plainSign
  split
  · exact .inr (by decide)
  · split
    · exact .inr (by decide)
    · split
      · exact .inr (by decide)
      · exact .inl rfl

theorem eq_of_plainSign {c d : Char} (h : plainSign c = d) (other : d ∉ ['-', '*', '/']) :
    c = d := by
  rcases plainSign_eq_or c with same | sign
  · rw [← same, h]
  · exact absurd (h ▸ sign) other

theorem mem_signs_of_plainSign {o : Operator} {c : Char} (h : plainSign c = o.sign) :
    c ∈ o.signs := by
  unfold plainSign at h
  split at h
  · next minus =>
      cases o <;> cases h
      rcases minus with rfl | rfl | rfl <;> decide
  · split at h
    · next times =>
        subst times
        cases o <;> cases h
        decide
    · split at h
      · next division =>
          subst division
          cases o <;> cases h
          decide
      · subst h
        cases o <;> decide

theorem eq_of_map_plainSign {s text : List Char} (h : s.map plainSign = text)
    (numeric : ∀ c ∈ text, isNumeric c = true) : s = text := by
  have all : ∀ c ∈ "0123456789.".toList, c ∉ ['-', '*', '/'] := by decide
  subst h
  rw [← List.map_id s, List.map_map]
  refine List.map_congr_left fun c hc => ?_
  exact eq_of_plainSign rfl (all _ (mem_of_isNumeric (numeric _ (List.mem_map_of_mem hc))))

theorem isNumeric_of_run_mem_pieces {s text : List Char} (h : .run text ∈ pieces s) :
    ∀ c ∈ text, isNumeric c = true := by
  fun_induction pieces s generalizing text with
  | case1 => cases h
  | case2 c s hc run rest hp ih =>
      rw [hp] at ih
      rcases List.mem_cons.mp h with same | later
      · cases same
        rintro d (_ | ⟨_, hd⟩)
        · exact hc
        · exact ih List.mem_cons_self d hd
      · exact ih (List.mem_cons_of_mem _ later)
  | case3 c s hc _ ih =>
      rcases List.mem_cons.mp h with same | later
      · cases same
        rintro d (_ | ⟨_, ⟨⟩⟩)
        exact hc
      · exact ih later
  | case4 c s _ ih =>
      rcases List.mem_cons.mp h with same | later
      · cases same
      · exact ih later

theorem operand_eq_ok {read : List Char → Option Float} {s : List Char} {t : Token Float}
    (h : operand read s = .ok t) : ∃ x, read s = some x ∧ t = .operand x := by
  unfold operand at h
  split at h
  · next x value =>
      cases h
      exact ⟨x, value, rfl⟩
  · cases h

theorem spells_of_markToken {c : Char} {t : Token Float} (h : markToken (plainSign c) = .ok t) :
    Spells [c] t := by
  unfold markToken at h
  split at h
  · next o sign =>
      cases h
      refine .operator (mem_signs_of_plainSign ?_)
      unfold Operator.ofSign? at sign
      split at sign <;> cases sign <;> assumption
  · split at h
    · next bracket =>
        cases h
        rw [eq_of_plainSign bracket (by decide)]
        exact .opening
    · split at h
      · next bracket =>
          cases h
          rw [eq_of_plainSign bracket (by decide)]
          exact .closing
      · cases h

theorem spells_run {run : List Char} {t : Token Float} (numeric : ∀ c ∈ run, isNumeric c = true)
    (h : operand read? run = .ok t) : Spells run t := by
  obtain ⟨x, value, rfl⟩ := operand_eq_ok h
  exact .literal (isLiteral_of_read? .none numeric value) value

theorem spelled_of_tokensAfter {last : Option (Token Float)} {ps : List Piece} {s : List Char}
    {ts : List (Token Float)} (text : s.map plainSign = ps.flatMap Piece.text)
    (runs : ∀ run, .run run ∈ ps → ∀ c ∈ run, isNumeric c = true)
    (h : tokensAfter read? last ps = .ok ts) : Spelled s ts := by
  fun_induction tokensAfter read? last ps generalizing s ts with
  | case1 =>
      cases h
      rw [List.flatMap_nil, List.map_eq_nil_iff] at text
      exact text ▸ .nil
  | case2 last run rest ih =>
      obtain ⟨t, ht, h⟩ := exists_of_bind_eq_ok h
      obtain ⟨ts, hts, h⟩ := exists_of_bind_eq_ok h
      cases h
      obtain ⟨a, s, rfl, ha, hs⟩ := List.map_eq_append_iff.mp text
      have numeric := runs run List.mem_cons_self
      obtain rfl := eq_of_map_plainSign ha numeric
      exact .token (spells_run numeric ht)
        (ih t hs (fun run mem => runs run (List.mem_cons_of_mem _ mem)) hts)
  | case3 last run rest free ih =>
      obtain ⟨t, ht, h⟩ := exists_of_bind_eq_ok h
      obtain ⟨ts, hts, h⟩ := exists_of_bind_eq_ok h
      cases h
      simp only [List.flatMap_cons, Piece.text, List.singleton_append] at text
      obtain ⟨c, s, rfl, hc, text⟩ := List.map_eq_cons_iff.mp text
      obtain ⟨a, s, rfl, ha, hs⟩ := List.map_eq_append_iff.mp text
      have numeric := runs run (List.mem_cons_of_mem _ List.mem_cons_self)
      obtain rfl := eq_of_map_plainSign ha numeric
      obtain ⟨x, value, rfl⟩ := operand_eq_ok ht
      have minus : c ∈ Operator.sub.signs := mem_signs_of_plainSign hc
      have literal : IsLiteral a := isLiteral_of_read? .minus numeric value
      exact .token (.negative minus literal value)
        (ih _ hs (fun run mem => runs run (List.mem_cons_of_mem _ (List.mem_cons_of_mem _ mem))) hts)
  | case4 last run rest full ih =>
      obtain ⟨t, ht, h⟩ := exists_of_bind_eq_ok h
      obtain ⟨ts, hts, h⟩ := exists_of_bind_eq_ok h
      cases h
      simp only [List.flatMap_cons, Piece.text, List.singleton_append] at text
      obtain ⟨c, s, rfl, hc, text⟩ := List.map_eq_cons_iff.mp text
      obtain ⟨a, s, rfl, ha, hs⟩ := List.map_eq_append_iff.mp text
      have numeric := runs run (List.mem_cons_of_mem _ List.mem_cons_self)
      obtain rfl := eq_of_map_plainSign ha numeric
      have minus : c ∈ Operator.sub.signs := mem_signs_of_plainSign hc
      exact .token (e := [c]) (.operator minus) (.token (spells_run numeric ht)
        (ih t hs (fun run mem => runs run (List.mem_cons_of_mem _ (List.mem_cons_of_mem _ mem))) hts))
  | case5 last c rest _ blank ih =>
      obtain ⟨c, s, rfl, rfl, hs⟩ := List.map_eq_cons_iff.mp text
      have plain : ∀ d ∈ ['-', '*', '/'], isBlank d = false := by decide
      have same : plainSign c = c := by
        rcases plainSign_eq_or c with same | sign
        · exact same
        · rw [plain _ sign] at blank
          cases blank
      rw [same] at blank
      exact .blank blank (ih hs (fun run mem => runs run (List.mem_cons_of_mem _ mem)) h)
  | case6 last c rest _ _ ih =>
      obtain ⟨t, ht, h⟩ := exists_of_bind_eq_ok h
      obtain ⟨ts, hts, h⟩ := exists_of_bind_eq_ok h
      cases h
      obtain ⟨c, s, rfl, rfl, hs⟩ := List.map_eq_cons_iff.mp text
      exact .token (e := [c]) (spells_of_markToken ht)
        (ih t hs (fun run mem => runs run (List.mem_cons_of_mem _ mem)) hts)

theorem spelled_of_tokens {s : List Char} {ts : List (Token Float)}
    (h : tokens read? s = .ok ts) : Spelled s ts :=
  spelled_of_tokensAfter (flatMap_text_pieces _).symm (fun _ => isNumeric_of_run_mem_pieces) h

/-! ## Expressions from their tokens -/

theorem spelled_blanks {u s : List Char} {ts : List (Token Float)} (hu : Blanks u)
    (h : Spelled s ts) : Spelled (u ++ s) ts := by
  induction u with
  | nil => exact h
  | cons c u ih =>
      obtain ⟨blank, hu⟩ := List.forall_mem_cons.mp hu
      exact .blank blank (ih hu)

theorem blanks_of_spelled {s : List Char} (h : Spelled s []) : Blanks s := by
  generalize empty : ([] : List (Token Float)) = ts at h
  induction h with
  | nil => intro c hc; cases hc
  | blank blank _ ih => exact List.forall_mem_cons.mpr ⟨blank, ih empty⟩
  | token => cases empty

theorem exists_of_spelled_cons {s : List Char} {t : Token Float} {ts : List (Token Float)}
    (h : Spelled s (t :: ts)) :
    ∃ u e r, Blanks u ∧ Spells e t ∧ Spelled r ts ∧ s = u ++ (e ++ r) := by
  generalize whole : t :: ts = all at h
  induction h with
  | nil => cases whole
  | blank blank _ ih =>
      obtain ⟨u, e, r, hu, he, hr, rfl⟩ := ih whole
      exact ⟨_ :: u, e, r, List.forall_mem_cons.mpr ⟨blank, hu⟩, he, hr, rfl⟩
  | token he hr =>
      cases whole
      exact ⟨[], _, _, by simp [Blanks], he, hr, rfl⟩

theorem exists_of_spelled_append {s : List Char} {ts us : List (Token Float)}
    (h : Spelled s (ts ++ us)) : ∃ a b, Spelled a ts ∧ Spelled b us ∧ s = a ++ b := by
  induction ts generalizing s with
  | nil => exact ⟨[], s, .nil, h, rfl⟩
  | cons t ts ih =>
      obtain ⟨u, e, r, hu, he, hr, rfl⟩ := exists_of_spelled_cons h
      obtain ⟨a, b, ha, hb, rfl⟩ := ih hr
      exact ⟨u ++ (e ++ a), b, spelled_blanks hu (.token he ha), hb, by simp⟩

theorem derives_of_spells {e : List Char} {x : Float} (h : Spells e (.operand x)) :
    ∃ tree, Derives .factor e tree := by
  cases h with
  | literal literal => exact ⟨_, .literal literal⟩
  | negative minus literal => exact ⟨_, .negative minus literal⟩

theorem derives_of_spelled {p : Phrase} {s : List Char} {ts : List (Token Float)} {t : Tree Float}
    (order : Infix p ts t) (h : Spelled s ts) :
    ∃ u e v tree, Blanks u ∧ Derives p e tree ∧ Blanks v ∧ s = u ++ (e ++ v) := by
  induction order generalizing s with
  | operand x =>
      obtain ⟨u, e, v, hu, he, hv, rfl⟩ := exists_of_spelled_cons h
      obtain ⟨tree, derives⟩ := derives_of_spells he
      exact ⟨u, e, v, tree, hu, derives, blanks_of_spelled hv, rfl⟩
  | group _ ih =>
      obtain ⟨u, _, r, hu, ⟨⟩, hr, rfl⟩ := exists_of_spelled_cons h
      obtain ⟨a, b, ha, hb, rfl⟩ := exists_of_spelled_append hr
      obtain ⟨w, _, v, hw, ⟨⟩, hv, rfl⟩ := exists_of_spelled_cons hb
      obtain ⟨ua, ea, va, tree, hua, inner, hva, rfl⟩ := ih ha
      exact ⟨u, _, v, tree, hu, .group hua inner (blanks_append hva hw), blanks_of_spelled hv,
        by simp⟩
  | tighter _ ih =>
      obtain ⟨u, e, v, tree, hu, derives, hv, rfl⟩ := ih h
      exact ⟨u, e, v, tree, hu, .tighter derives, hv, rfl⟩
  | apply _ _ iha ihb =>
      obtain ⟨a, b, ha, hb, rfl⟩ := exists_of_spelled_append h
      obtain ⟨u, _, r, hu, sign, hr, rfl⟩ := exists_of_spelled_cons hb
      obtain ⟨ua, ea, va, left, hua, lefts, hva, rfl⟩ := iha ha
      obtain ⟨ur, er, vr, right, hur, rights, hvr, rfl⟩ := ihb hr
      cases sign with
      | operator sign =>
          exact ⟨ua, _, vr, _, hua, .apply lefts (blanks_append hva hu) sign hur rights, hvr,
            by simp⟩

theorem expression_of_spelled {s : List Char} {ts : List (Token Float)} {t : Tree Float}
    (order : Infix .sum ts t) (h : Spelled s ts) : ∃ tree, Expression s tree := by
  obtain ⟨u, e, v, tree, hu, derives, hv, rfl⟩ := derives_of_spelled order h
  exact ⟨tree, u, e, v, hu, derives, hv, rfl⟩

end Sidekick.Calculator
