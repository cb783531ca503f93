import Sidekick.Proofs.Field.Faults

/-!
# Where quoted values end

A quoted value should end at its first quote that no backslash escapes. It does, and its text depends
on nothing behind that quote, just if the four characters of every code unit keep apart from the
quotes. In `\u1"` they do not.
-/

namespace Sidekick.Field
open Text Number

variable {s : List Char}

/-! ## Escaped quotes -/

def backslashes (s : List Char) : Nat := (s.reverse.takeWhile (· == '\\')).length

def isEscape (s : List Char) : Bool := backslashes s % 2 == 1

theorem isEscape_concat (s : List Char) (c : Char) :
    isEscape (s ++ [c]) = (!isEscape s && c == '\\') := by
  by_cases h : c = '\\'
  · have more : backslashes (s ++ [c]) = backslashes s + 1 := by
      simp [backslashes, h]
    rw [isEscape, isEscape, more, Bool.eq_iff_iff]
    simp [h]
    omega
  · simp [isEscape, backslashes, h]

/-- The quote behind `before` is the first one in `s` that is not escaped. -/
structure Closes (s before after : List Char) : Prop where
  text : s = before ++ '\x22' :: after
  unescaped : backslashes before % 2 = 0
  first : ∀ x y, s = x ++ '\x22' :: y → backslashes x % 2 = 0 → before.length ≤ x.length

def closing (escape : Bool) : List Char → List Char
  | [] => []
  | c :: s => if !escape && c == '\x22' then c :: s else closing (!escape && c == '\\') s

theorem closing_concat (p s : List Char) (c : Char) (plain : isEscape p = true ∨ c ≠ '\x22') :
    closing (isEscape p) (c :: s) = closing (isEscape (p ++ [c])) s := by
  rw [closing, isEscape_concat, if_neg]
  rcases plain with escape | other
  · simp [escape]
  · simp [other]

-- Behind the text `p`, the first quote that is not escaped is found, if there is one.
theorem closing_cases (p s : List Char) :
    closing (isEscape p) s = [] ∧ (∀ x y, s = x ++ '\x22' :: y → isEscape (p ++ x) = true) ∨
      ∃ q after, closing (isEscape p) s = '\x22' :: after ∧ s = q ++ '\x22' :: after ∧
        isEscape (p ++ q) = false ∧
        ∀ x y, s = x ++ '\x22' :: y → isEscape (p ++ x) = false → q.length ≤ x.length := by
  induction s generalizing p with
  | nil => exact .inl ⟨rfl, fun x y eq => by simp at eq⟩
  | cons c s ih =>
      by_cases plain : isEscape p = true ∨ c ≠ '\x22'
      · have step (x : List Char) : (p ++ [c]) ++ x = p ++ c :: x := by simp
        rw [closing_concat p s c plain]
        rcases ih (p ++ [c]) with ⟨none, escaped⟩ | ⟨q, after, found, rfl, unescaped, first⟩
        · refine .inl ⟨none, fun x y eq => ?_⟩
          cases x with
          | nil => exact plain.elim (by simp) (absurd (List.cons.inj eq).1)
          | cons d x =>
              obtain ⟨rfl, rfl⟩ := List.cons.inj eq
              rw [← step]
              exact escaped x y rfl
        · refine .inr ⟨c :: q, after, found, rfl, by rw [← step]; exact unescaped, ?_⟩
          intro x y eq unescaped'
          cases x with
          | nil =>
              obtain escape | other := plain
              · simp [escape] at unescaped'
              · exact absurd (List.cons.inj eq).1 other
          | cons d x =>
              obtain ⟨rfl, later⟩ := List.cons.inj eq
              rw [← step] at unescaped'
              exact Nat.succ_le_succ (first x y later unescaped')
      · obtain ⟨unescaped, quote⟩ := not_or.mp plain
        obtain rfl := Classical.not_not.mp quote
        have free : isEscape p = false := Bool.eq_false_iff.mpr unescaped
        refine .inr ⟨[], s, by simp [closing, free], rfl, by simp [free], fun _ _ _ _ => ?_⟩
        exact Nat.zero_le _

theorem isEscape_eq_false_iff {s : List Char} : isEscape s = false ↔ backslashes s % 2 = 0 := by
  rw [isEscape, beq_eq_false_iff_ne]
  omega

theorem Closes.unique {before after before' after' : List Char} (h : Closes s before after)
    (h' : Closes s before' after') : before = before' ∧ after = after' := by
  have same : before.length = before'.length := Nat.le_antisymm
    (h.first _ _ h'.text h'.unescaped) (h'.first _ _ h.text h.unescaped)
  obtain ⟨rfl, rest⟩ := List.append_inj (h.text.symm.trans h'.text) same
  exact ⟨rfl, (List.cons.inj rest).2⟩

theorem closing_or (s : List Char) :
    closing false s = [] ∧ (∀ x y, s = x ++ '\x22' :: y → backslashes x % 2 = 1) ∨
      ∃ before after, closing false s = '\x22' :: after ∧ Closes s before after := by
  rcases closing_cases [] s with ⟨none, escaped⟩ | ⟨q, after, found, text, unescaped, first⟩
  · exact .inl ⟨none, fun x y eq => by simpa [isEscape] using escaped x y eq⟩
  · refine .inr ⟨q, after, found, text, isEscape_eq_false_iff.mp unescaped, fun x y eq even => ?_⟩
    exact first x y eq (isEscape_eq_false_iff.mpr even)

theorem Closes.closing_eq {before after : List Char} (h : Closes s before after) :
    closing false s = '\x22' :: after := by
  rcases closing_or s with ⟨-, escaped⟩ | ⟨before', after', found, closes⟩
  · have odd := escaped before after h.text
    rw [h.unescaped] at odd
    cases odd
  · obtain ⟨-, rfl⟩ := h.unique closes
    exact found

theorem closing_eq_nil (none : ∀ before after, ¬ Closes s before after) : closing false s = [] := by
  rcases closing_or s with ⟨empty, -⟩ | ⟨before, after, -, closes⟩
  · exact empty
  · exact absurd closes (none before after)

theorem closing_plain {c : Char} (quote : c ≠ '\x22') (backslash : c ≠ '\\') (s : List Char) :
    closing false (c :: s) = closing false s := by
  simp [closing, beq_false_of_ne quote, beq_false_of_ne backslash]

theorem closing_escaped (c : Char) (s : List Char) :
    closing false ('\\' :: c :: s) = closing false s := by
  simp [closing]

theorem length_lt_closing {x y : List Char} (text : s = x ++ '\x22' :: y)
    (unescaped : backslashes x % 2 = 0) : y.length < (closing false s).length := by
  rcases closing_or s with ⟨-, escaped⟩ | ⟨before, after, found, closes⟩
  · have odd := escaped x y text
    rw [unescaped] at odd
    cases odd
  · have le := closes.first x y text unescaped
    have length := congrArg List.length (closes.text.symm.trans text)
    simp only [List.length_append, List.length_cons] at length
    rw [found, List.length_cons]
    omega

theorem length_closing (e : Bool) (s : List Char) : (closing e s).length ≤ s.length := by
  induction s generalizing e with
  | nil => exact Nat.le_refl _
  | cons c s ih =>
      rw [closing]
      split
      · exact Nat.le_refl _
      · exact Nat.le_succ_of_le (ih _)

theorem closing_append {p q : List Char}
    (escaped : ∀ x y, q = x ++ '\x22' :: y → isEscape (p ++ x) = true) (s : List Char) :
    closing (isEscape p) (q ++ s) = closing (isEscape (p ++ q)) s := by
  induction q generalizing p with
  | nil => rw [List.append_nil, List.nil_append]
  | cons c q ih =>
      have plain : isEscape p = true ∨ c ≠ '\x22' := by
        by_cases quote : c = '\x22'
        · refine .inl ?_
          have here := escaped [] q (by rw [quote, List.nil_append])
          rwa [List.append_nil] at here
        · exact .inr quote
      have step (x : List Char) : (p ++ [c]) ++ x = p ++ c :: x := by simp
      rw [List.cons_append, closing_concat p _ c plain, ih, step]
      intro x y eq
      rw [step]
      exact escaped (c :: x) y (by rw [eq, List.cons_append])

-- Two backslashes in a row change nothing, one turns a character behind it.
theorem closing_replicate (e : Bool) (n : Nat) (s : List Char) :
    closing e (List.replicate n '\\' ++ s) = closing (e ^^ (n % 2 == 1)) s := by
  induction n generalizing e with
  | zero => simp
  | succ n ih =>
      have other : (!e && ('\\' == '\x22')) = false := by simp
      rw [List.replicate_succ, List.cons_append, closing, other, if_neg Bool.false_ne_true, ih]
      have odd : ((n + 1) % 2 == 1) = !(n % 2 == 1) := by
        rw [Bool.eq_iff_iff]
        simp
        omega
      rw [odd]
      cases e <;> simp

theorem closing_of_head {e : Bool} {s : List Char} (h : ∀ c ∈ s.head?, c ≠ '\\' ∧ c ≠ '\x22') :
    closing e s = closing false s := by
  cases s with
  | nil => rfl
  | cons c s =>
      obtain ⟨backslash, quote⟩ := h c rfl
      simp only [closing, beq_false_of_ne backslash, beq_false_of_ne quote, Bool.and_false,
        Bool.false_eq_true, if_false]

/-! ## Items -/

-- What stands before it does not depend on what is read next.
theorem Pieces.items {p : List Char} (h : Pieces p) :
    ∃ is, ∀ s, items (p ++ s) = (is ++ (items s).1, (items s).2) := by
  induction h with
  | nil => exact ⟨[], fun s => rfl⟩
  | @plain c _ quote backslash _ ih =>
      obtain ⟨is, read⟩ := ih
      exact ⟨.plain c :: is, fun s => by
        rw [List.cons_append, items_plain quote backslash, read, List.cons_append]⟩
  | @escaped c _ other _ ih =>
      obtain ⟨is, read⟩ := ih
      exact ⟨.escaped c :: is, fun s => by
        rw [List.cons_append, List.cons_append, items_escaped other, read, List.cons_append]⟩
  | @unit a b c d _ _ ih =>
      obtain ⟨is, read⟩ := ih
      exact ⟨.unit [a, b, c, d] :: is, fun s => by
        simp only [List.cons_append, Field.items, read]⟩

theorem pieces_replicate (n : Nat) : Pieces (List.replicate (2 * n) '\\') := by
  induction n with
  | zero => exact .nil
  | succ n ih => exact .escaped (by decide) ih

/-! ## Code units and quotes -/

/-- The four characters behind the `u` of a code unit keep apart from the quotes: none of these
stands unescaped among them, and if they end with a backslash that is not escaped, the backslashes
that follow do not come before a quote. -/
structure Apart (after : List Char) : Prop where
  inside : ∀ x y, after.take 4 = x ++ '\x22' :: y → backslashes x % 2 = 1
  behind : backslashes (after.take 4) % 2 = 1 →
    ∀ n rest, after.drop 4 ≠ List.replicate n '\\' ++ '\x22' :: rest

def UnitsApart (s : List Char) : Prop :=
  ∀ front after, s = front ++ '\\' :: 'u' :: after → Pieces front → Apart after

theorem unitsApart_iff : UnitsApart s ↔ ¬ Meets (fun after => ¬ Apart after) s := by
  constructor
  · rintro apart ⟨front, after, eq, pieces, not⟩
    exact not (apart front after eq pieces)
  · intro apart front after eq pieces
    exact Classical.byContradiction fun not => apart ⟨front, after, eq, pieces, not⟩

theorem closing_of_inside {after : List Char}
    (inside : ∀ x y, after.take 4 = x ++ '\x22' :: y → backslashes x % 2 = 1) :
    closing false after = closing (isEscape (after.take 4)) (after.drop 4) := by
  have escaped (x y : List Char) (eq : after.take 4 = x ++ '\x22' :: y) :
      isEscape ([] ++ x) = true := by simp [isEscape, inside x y eq]
  have cut := closing_append escaped (after.drop 4)
  rwa [List.take_append_drop] at cut

theorem exists_replicate (s : List Char) :
    ∃ n r, s = List.replicate n '\\' ++ r ∧ ∀ c ∈ r.head?, c ≠ '\\' := by
  induction s with
  | nil => exact ⟨0, [], rfl, by simp⟩
  | cons c s ih =>
      by_cases backslash : c = '\\'
      · obtain ⟨n, r, rfl, other⟩ := ih
        exact ⟨n + 1, r, by rw [backslash, List.replicate_succ, List.cons_append], other⟩
      · exact ⟨0, c :: s, rfl, by simpa using backslash⟩

theorem Apart.closing_eq {after : List Char} (h : Apart after) :
    closing false after = closing false (after.drop 4) := by
  rw [closing_of_inside h.inside]
  cases escape : isEscape (after.take 4) with
  | false => rfl
  | true =>
      obtain ⟨n, r, rest, other⟩ := exists_replicate (after.drop 4)
      have plain : ∀ c ∈ r.head?, c ≠ '\\' ∧ c ≠ '\x22' := by
        intro c hc
        refine ⟨other c hc, ?_⟩
        rintro rfl
        obtain ⟨r, rfl⟩ := List.head?_eq_some_iff.mp hc
        exact h.behind (by simpa [isEscape] using escape) n r rest
      rw [rest, closing_replicate, closing_replicate, closing_of_head plain,
        closing_of_head (e := _ ^^ _) plain]

theorem items_ne_closing {after : List Char} (h : ¬ Apart after) :
    (items (after.drop 4)).2 ≠ closing false after := by
  intro same
  have length := congrArg List.length same
  have inside : ∀ x y, after.take 4 = x ++ '\x22' :: y → backslashes x % 2 = 1 := by
    intro x y eq
    by_contra even
    have text : after = x ++ '\x22' :: (y ++ after.drop 4) := by
      rw [← List.cons_append, ← List.append_assoc, ← eq, List.take_append_drop]
    have longer := length_lt_closing text (by omega)
    have shorter := length_items (after.drop 4)
    rw [List.length_append] at longer
    omega
  refine h ⟨inside, fun odd n rest eq => ?_⟩
  have escape : isEscape (after.take 4) = true := by simpa [isEscape] using odd
  rw [closing_of_inside inside, escape, eq, closing_replicate] at length
  -- The scan and the escapes count the backslashes from different places.
  rcases Nat.even_or_odd' n with ⟨m, rfl | rfl⟩
  · obtain ⟨is, read⟩ := (pieces_replicate m).items
    have shorter := length_closing false rest
    rw [read] at length
    simp [items, closing] at length
    omega
  · obtain ⟨is, read⟩ := (pieces_replicate m).items
    have shorter := length_items rest
    rw [List.replicate_succ', List.append_assoc, read] at length
    simp [items_escaped, closing] at length
    omega

/-! ## The end of a value -/

theorem items_of_few (few : s.length < 6) : (items s).2 = closing false s := by
  fun_induction items s with
  | case1 => rfl
  | case2 s => rfl
  | case3 => rfl
  | case4 a b c d s found rest cut ih =>
      simp at few
      omega
  | case5 s short ih => exact ih (by simp at few; omega)
  | case6 c s _ other found rest cut ih =>
      rw [cut] at ih
      exact ih (by simp at few; omega)
  | case7 c s quote last _ _ more found rest cut ih =>
      rw [cut] at ih
      rw [closing_plain quote (ne_backslash last more)]
      exact ih (by simp at few; omega)

-- Where the scan passes whole units that keep apart from the quotes, it passes none of these.
theorem closing_pieces {p : List Char} (pieces : Pieces p)
    (apart : ¬ Meets (fun after => 4 ≤ after.length ∧ ¬ Apart after) (p ++ s)) :
    closing false (p ++ s) = closing false s := by
  induction pieces with
  | nil => rfl
  | plain quote backslash _ ih =>
      rw [List.cons_append, meets_plain quote backslash] at apart
      rw [List.cons_append, closing_plain quote backslash, ih apart]
  | escaped other _ ih =>
      rw [List.cons_append, List.cons_append, meets_escaped other] at apart
      rw [List.cons_append, List.cons_append, closing_escaped, ih apart]
  | @unit a b c d p _ ih =>
      simp only [List.cons_append, meets_unit, not_or] at apart
      have here : Apart (a :: b :: c :: d :: (p ++ s)) :=
        Classical.byContradiction fun not => apart.1 ⟨by simp, not⟩
      simp only [List.cons_append]
      rw [closing_escaped, here.closing_eq]
      exact ih apart.2

theorem items_of_apart (apart : ¬ Meets (fun after => ¬ Apart after) s) :
    (items s).2 = closing false s ∧
      ∀ after, closing false s = '\x22' :: after → ∃ before, s = before ++ '\x22' :: after ∧
        Pieces before := by
  fun_induction items s with
  | case1 | case3 => exact ⟨rfl, fun _ eq => absurd eq (List.cons_ne_nil _ _).symm⟩
  | case2 s => exact ⟨rfl, fun _ eq => ⟨[], eq, .nil⟩⟩
  | case4 a b c d s found rest cut ih =>
      rw [meets_unit, not_or, Classical.not_not] at apart
      obtain ⟨ends, before⟩ := ih apart.2
      rw [cut] at ends
      rw [closing_escaped, apart.1.closing_eq]
      refine ⟨ends, fun after eq => ?_⟩
      obtain ⟨p, rfl, pieces⟩ := before after eq
      exact ⟨_, rfl, .unit pieces⟩
  | case5 s short ih =>
      have few := length_lt_of_short short
      rw [meets_short few, Classical.not_not] at apart
      rw [closing_escaped]
      refine ⟨items_of_few (by omega), fun after eq => ?_⟩
      rw [apart.closing_eq, List.drop_of_length_le (by omega)] at eq
      cases eq
  | case6 c s _ other found rest cut ih =>
      rw [meets_escaped other] at apart
      obtain ⟨ends, before⟩ := ih apart
      rw [cut] at ends
      rw [closing_escaped]
      refine ⟨ends, fun after eq => ?_⟩
      obtain ⟨p, rfl, pieces⟩ := before after eq
      exact ⟨_, rfl, .escaped other pieces⟩
  | case7 c s quote last _ _ more found rest cut ih =>
      have backslash := ne_backslash last more
      rw [meets_plain quote backslash] at apart
      obtain ⟨ends, before⟩ := ih apart
      rw [cut] at ends
      rw [closing_plain quote backslash]
      refine ⟨ends, fun after eq => ?_⟩
      obtain ⟨p, rfl, pieces⟩ := before after eq
      exact ⟨_, rfl, .plain quote backslash pieces⟩

theorem apart_of_items (same : (items s).2 = closing false s) :
    ¬ Meets (fun after => 4 ≤ after.length ∧ ¬ Apart after) s := by
  fun_induction items s with
  | case1 => exact not_meets_nil
  | case2 => exact not_meets_quote
  | case3 => exact not_meets_backslash
  | case4 a b c d s found rest cut ih =>
      rw [closing_escaped] at same
      have apart : Apart (a :: b :: c :: d :: s) := by
        by_contra not
        refine items_ne_closing not ?_
        simpa [cut] using same
      rw [cut] at ih
      rw [meets_unit]
      exact not_or.mpr ⟨fun h => h.2 apart, ih (same.trans apart.closing_eq)⟩
  | case5 s short ih =>
      have few := length_lt_of_short short
      rw [meets_short few]
      omega
  | case6 c s _ other found rest cut ih =>
      rw [cut] at ih
      rw [closing_escaped] at same
      rw [meets_escaped other]
      exact ih same
  | case7 c s quote last _ _ more found rest cut ih =>
      have backslash := ne_backslash last more
      rw [cut] at ih
      rw [closing_plain quote backslash] at same
      rw [meets_plain quote backslash]
      exact ih same

/-! ## What stands behind a value -/

theorem length_le_of_decodeItems {is : List Item} {text : List Char}
    (read : decodeItems is = .ok text) : is.length ≤ 2 * text.length := by
  fun_induction decodeItems is generalizing text with
  | case1 => exact Nat.zero_le _
  | case5 | case7 => cases read
  | case2 c rest ih | case3 c rest ih | case4 high low rest _ ih | case6 high low rest _ _ ih
  | case8 figures rest _ _ ih =>
      obtain ⟨found, later, eq⟩ := exists_of_bind_eq_ok read
      have length := ih later
      cases eq
      simp only [List.length_cons] at length ⊢
      omega

theorem length_items_replicate (n : Nat) : (items (List.replicate n 'x')).1.length = n := by
  induction n with
  | zero => rfl
  | succ n ih => rw [List.replicate_succ, items_plain (by decide) (by decide), List.length_cons, ih]

/-- A value ends at its first quote that is not escaped, or with the text if there is none, and has
the same text whatever stands behind that quote. -/
structure EndsRight (s text : List Char) : Prop where
  ended : ∀ before after, Closes s before after → (items s).2 = '\x22' :: after
  unended : (∀ before after, ¬ Closes s before after) → (items s).2 = []
  alone : ∀ before after, Closes s before after →
    ∀ other, decode (before ++ '\x22' :: other) = .ok text

theorem EndsRight.items_eq_closing {text : List Char} (h : EndsRight s text) :
    (items s).2 = closing false s := by
  by_cases closes : ∃ before after, Closes s before after
  · obtain ⟨before, after, closes⟩ := closes
    rw [h.ended before after closes, closes.closing_eq]
  · have none : ∀ before after, ¬ Closes s before after :=
      fun before after found => closes ⟨before, after, found⟩
    rw [h.unended none, closing_eq_nil none]

-- A unit cut short by the end of the text would take in what may stand behind the value.
theorem EndsRight.not_meets_short {text : List Char} (h : EndsRight s text) :
    ¬ Meets (fun after => after.length < 4 ∧ ¬ Apart after) s := by
  have whole := apart_of_items h.items_eq_closing
  rintro ⟨front, after, rfl, pieces, few, not⟩
  have found : closing false (front ++ '\\' :: 'u' :: after) = closing false after := by
    rw [closing_pieces pieces whole, closing_escaped]
  have quoted := items_ne_closing not
  rw [List.drop_of_length_le (by omega)] at quoted
  obtain ⟨q, rest, closed, closes⟩ := (closing_or after).resolve_left
    fun none => quoted none.1.symm
  obtain rfl := closes.text
  obtain ⟨before, rest', closed', outer⟩ := (closing_or (front ++ _)).resolve_left
    fun none => quoted (found.symm.trans none.1).symm
  obtain rfl : rest' = rest := (List.cons.inj (closed'.symm.trans (found.trans closed))).2
  obtain rfl : front ++ '\\' :: 'u' :: q = before := by
    have text := outer.text
    rw [← List.cons_append, ← List.cons_append, ← List.append_assoc] at text
    exact List.append_cancel_right text
  -- The unit is made whole behind the value, and more follows than the value has characters for.
  let figures := q ++ '\x22' :: List.replicate (3 - q.length) 'x'
  let behind := List.replicate (2 * text.length) 'x'
  have four : figures.length = 4 := by
    simp [figures] at few ⊢
    omega
  have read := h.alone _ _ outer (List.replicate (3 - q.length) 'x' ++ behind)
  have cut : front ++ '\\' :: 'u' :: q ++ '\x22' :: (List.replicate (3 - q.length) 'x' ++ behind) =
      front ++ '\\' :: 'u' :: (figures ++ behind) := by simp [figures]
  obtain ⟨is, first⟩ := pieces.items
  rw [cut, decode, first, items_unit (by simp [four]), List.drop_left' four] at read
  have length := length_le_of_decodeItems read
  rw [List.length_append, List.length_cons, length_items_replicate] at length
  omega

theorem endsRight_iff_unitsApart (s : List Char) :
    (∀ text, decode s = .ok text → EndsRight s text) ↔
      (∃ fault, decode s = .error fault) ∨ UnitsApart s := by
  rw [unitsApart_iff]
  constructor
  · intro right
    cases read : decode s with
    | error fault => exact .inl ⟨fault, rfl⟩
    | ok text =>
        have ends := right text read
        refine .inr fun ⟨front, after, eq, pieces, not⟩ => ?_
        by_cases few : after.length < 4
        · exact ends.not_meets_short ⟨front, after, eq, pieces, few, not⟩
        · exact apart_of_items ends.items_eq_closing ⟨front, after, eq, pieces, by omega, not⟩
  · rintro (⟨fault, failed⟩ | apart) text read
    · cases failed.symm.trans read
    · obtain ⟨same, pieces⟩ := items_of_apart apart
      refine ⟨fun before after closes => ?_, fun none => ?_, fun before after closes other => ?_⟩
      · rw [same, closes.closing_eq]
      · rw [same, closing_eq_nil none]
      · obtain ⟨before', text', found⟩ := pieces after closes.closing_eq
        obtain rfl : before' = before := List.append_cancel_right (text'.symm.trans closes.text)
        obtain ⟨is, cut⟩ := found.items
        rw [decode, closes.text, cut] at read
        rw [decode, cut]
        exact read

theorem not_endsRight_short_unit : decode "\\u1\",\"b\":\"x\"\x7d".toList = .ok "?b".toList ∧
    ¬ EndsRight "\\u1\",\"b\":\"x\"\x7d".toList "?b".toList :=
  ⟨by decide, fun h => absurd h.items_eq_closing (by decide)⟩

end Sidekick.Field
