import Mathlib.Data.List.Forall2
import Sidekick.Proofs.Field.Texts

/-!
# Arrays that are cut out by their brackets

The texts of an array should come back whole, whatever characters they hold. But the array is cut
out by counting brackets, those in its texts too. The text of `["a]b"]` is `a`.
-/

namespace Sidekick.Field
open Text Number Json

/-- The brackets inside an array are closed there; or they are closed behind it, with no text before
the bracket that closes them. -/
def Bracketed (inner after : List Char) : Prop :=
  Nested '[' ']' inner ∨ ∃ beyond rest, after = beyond ++ ']' :: rest ∧
    Nested '[' ']' (inner ++ ']' :: beyond) ∧ NoText (']' :: beyond)

variable {s b c : List Char}

/-! ## An array that is cut short -/

theorem exists_behind {u v a r : List Char} {x : Char} (absent : x ∉ u)
    (h : u ++ v = a ++ x :: r) : ∃ a', a = u ++ a' ∧ v = a' ++ x :: r := by
  rcases List.append_eq_append_iff.mp h with ⟨a', rfl, eq⟩ | ⟨d, rfl, eq⟩
  · exact ⟨a', rfl, eq⟩
  · cases d with
    | nil => exact ⟨[], by simp, eq.symm⟩
    | cons y d =>
        obtain ⟨rfl, -⟩ := List.cons.inj eq
        exact absurd (List.mem_append_right _ List.mem_cons_self) absent

theorem Encoded.bracket_text (p : Encoded) :
    ']' ∉ p.text ∨ ∃ plain, p = .literal ']' plain := by
  cases p with
  | literal c plain =>
      by_cases bracket : c = ']'
      · subst bracket
        exact .inr ⟨plain, rfl⟩
      · exact .inl (by simpa [Encoded.text] using Ne.symm bracket)
  | short s => exact .inl (by cases s <;> decide)
  | unit u =>
      have figure (f : Figure) : f.char ≠ ']' := by
        have all : ∀ v : Fin 16, ∀ b : Bool, Figure.char ⟨v, b⟩ ≠ ']' := by decide
        exact all f.value f.capital
      refine .inl ?_
      simp [Encoded.text, CodeUnit.figures, Ne.symm (figure _)]

theorem encodedText_cut {e : List Encoded} {a r : List Char} (h : encodedText e = a ++ ']' :: r) :
    ∃ e₁ plain e₂, e = e₁ ++ .literal ']' plain :: e₂ ∧ a = encodedText e₁ := by
  induction e generalizing a with
  | nil => simp [encodedText] at h
  | cons p e ih =>
      rw [encodedText, List.flatMap_cons, ← encodedText] at h
      rcases p.bracket_text with absent | ⟨plain, rfl⟩
      · obtain ⟨a', rfl, rest⟩ := exists_behind absent h
        obtain ⟨e₁, plain, e₂, rfl, rfl⟩ := ih rest
        exact ⟨p :: e₁, plain, e₂, rfl, rfl⟩
      · cases a with
        | nil => exact ⟨[], plain, e, rfl, rfl⟩
        | cons x a =>
            obtain ⟨rfl, rest⟩ := List.cons.inj h
            obtain ⟨e₁, plain', e₂, rfl, rfl⟩ := ih rest
            exact ⟨.literal ']' plain :: e₁, plain', e₂, rfl, rfl⟩

theorem meaning_append_literal (e₁ : List Encoded) (c : Char) (plain : c ≠ '\x22' ∧ c ≠ '\\')
    (e₂ : List Encoded) :
    meaning (e₁ ++ .literal c plain :: e₂) = meaning e₁ ++ c :: meaning e₂ := by
  fun_induction meaning e₁ with
  | case1 => rfl
  | case2 d plain' rest ih => rw [List.cons_append, meaning, ih, List.cons_append]
  | case3 s rest ih => rw [List.cons_append, meaning, ih, List.cons_append]
  | case4 u v rest h ih =>
      rw [List.cons_append, List.cons_append, meaning, if_pos h, ih, List.cons_append]
  | case5 u v rest h ih =>
      rw [List.cons_append, List.cons_append, meaning, if_neg h, ← List.cons_append, ih,
        List.cons_append]
  | case6 u rest h ih =>
      have alone : meaning (.unit u :: (rest ++ .literal c plain :: e₂)) =
          u.lone :: meaning (rest ++ .literal c plain :: e₂) := by
        cases rest with
        | nil => rfl
        | cons p rest =>
            cases p with
            | literal => rfl
            | short => rfl
            | unit v => exact absurd rfl (h v rest)
      rw [List.cons_append, alone, ih, List.cons_append]

theorem Element.cut (el : Element) {v a r : List Char} (h : el.written ++ v = a ++ ']' :: r) :
    (∃ e₁ plain e₂, el = .text (e₁ ++ .literal ']' plain :: e₂) ∧ a = '\x22' :: encodedText e₁) ∨
      ∃ a', a = el.written ++ a' ∧ v = a' ++ ']' :: r := by
  rcases el.text_or_plain with ⟨e, rfl⟩ | ⟨-, plain⟩
  · have opened : ['\x22'] ++ (encodedText e ++ '\x22' :: v) = a ++ ']' :: r := by
      simpa [Element.written, quoted] using h
    obtain ⟨a, rfl, eq⟩ := exists_behind (by decide) opened
    rcases List.append_eq_append_iff.mp eq with ⟨d, rfl, behind⟩ | ⟨d, inside, closes⟩
    · cases d with
      | nil => exact absurd (List.cons.inj behind).1 (by decide)
      | cons y d =>
          obtain ⟨rfl, rest⟩ := List.cons.inj behind
          exact .inr ⟨d, by simp [Element.written, quoted], rest⟩
    · cases d with
      | nil => exact absurd (List.cons.inj closes).1 (by decide)
      | cons y d =>
          obtain ⟨rfl, -⟩ := List.cons.inj closes
          obtain ⟨e₁, plain, e₂, rfl, rfl⟩ := encodedText_cut inside
          exact .inl ⟨e₁, plain, e₂, rfl, rfl⟩
  · exact .inr (exists_behind (fun mem => absurd (plain.plain _ mem).2 (by decide)) h)

theorem quotedElements_unended (hb : Blanks b) (e : List Encoded) :
    quotedElements (b ++ '\x22' :: encodedText e) = .ok [meaning e] := by
  have plain : isBlank '\x22' = false := by decide
  have rest : afterQuoted (encodedText e) = [] := by rw [afterQuoted, items_unended]; rfl
  rw [quotedElements_eq, trimStart_blanks hb (stops_cons plain _)]
  simp only [if_true, decode_unended, rest]
  rw [quotedElements_blanks (by decide)]
  rfl

theorem bracket_not_mem_of_blanks (h : Blanks b) : ']' ∉ b :=
  fun mem => absurd (h _ mem) (by decide)

/-- What is read ends with a part of one of the texts, up to a bracket in it. -/
def CutShort (texts read : List (List Char)) : Prop :=
  ∃ before v later more, texts = before ++ (v ++ ']' :: later) :: more ∧ read = before ++ [v]

theorem CutShort.append {texts read : List (List Char)} (h : CutShort texts read)
    (more : List (List Char)) : CutShort (more ++ texts) (more ++ read) := by
  obtain ⟨before, v, later, rest, rfl, rfl⟩ := h
  exact ⟨more ++ before, v, later, rest, by simp, by simp⟩

theorem CutShort.ne {texts read : List (List Char)} (h : CutShort texts read) : read ≠ texts := by
  obtain ⟨before, v, later, rest, rfl, rfl⟩ := h
  intro eq
  have short := (List.cons.inj (List.append_cancel_left eq)).1
  simpa using congrArg List.length short

theorem cutShort_first (hb : Blanks b) (e₁ : List Encoded) (plain : ']' ≠ '\x22' ∧ ']' ≠ '\\')
    (e₂ : List Encoded) (els : List Element) :
    ∃ read, quotedElements (b ++ '\x22' :: encodedText e₁) = .ok read ∧
      CutShort (meanings (.text (e₁ ++ .literal ']' plain :: e₂) :: els)) read := by
  refine ⟨_, quotedElements_unended hb e₁, [], meaning e₁, meaning e₂, meanings els, ?_, rfl⟩
  rw [meanings_cons, ← meaning_append_literal e₁ ']' plain e₂]
  rfl

theorem stops_cut {el : Element} {ts : List (List Char)} {a r : List Char}
    (h : Listed (el.written :: ts) (a ++ ']' :: r)) : Stops (· == ',') (trimStart a) := by
  obtain ⟨b, rest, hb, eq⟩ := h.start
  obtain ⟨a, rfl, inner⟩ := exists_behind (bracket_not_mem_of_blanks hb) eq.symm
  obtain ⟨x, w, first, blank, comma, bracket⟩ := el.head
  rw [first] at inner
  cases a with
  | nil => exact absurd (List.cons.inj inner).1 bracket
  | cons y a =>
      obtain ⟨rfl, -⟩ := List.cons.inj inner
      rw [trimStart_blanks hb (stops_cons blank _)]
      exact stops_cons (p := (· == ',')) (beq_false_of_ne comma) _

theorem quotedElements_cut {els : List Element} {a r : List Char}
    (h : Listed (els.map Element.written) (a ++ ']' :: r)) :
    ∃ read, quotedElements a = .ok read ∧ CutShort (meanings els) read := by
  generalize whole : a ++ ']' :: r = s at h
  induction els generalizing a s with
  | nil =>
      cases h with
      | none hb =>
          subst whole
          exact absurd (List.mem_append_right _ List.mem_cons_self) (bracket_not_mem_of_blanks hb)
  | cons el els ih =>
      cases els with
      | nil =>
          cases h with
          | last hb hc =>
              obtain ⟨a, rfl, eq⟩ := exists_behind (bracket_not_mem_of_blanks hb) whole.symm
              rcases el.cut eq with ⟨e₁, plain, e₂, rfl, rfl⟩ | ⟨a, rfl, rfl⟩
              · exact cutShort_first hb e₁ plain e₂ []
              · exact absurd (List.mem_append_right _ List.mem_cons_self)
                  (bracket_not_mem_of_blanks hc)
      | cons f els =>
          cases h with
          | @more _ _ b c s _ hb hc later =>
              obtain ⟨a, rfl, eq⟩ := exists_behind (bracket_not_mem_of_blanks hb) whole.symm
              rcases el.cut eq with ⟨e₁, plain, e₂, rfl, rfl⟩ | ⟨a, rfl, eq⟩
              · exact cutShort_first hb e₁ plain e₂ (f :: els)
              · -- The cut is behind the comma, in the elements that follow.
                have absent : ']' ∉ c ++ [','] := by simpa using bracket_not_mem_of_blanks hc
                obtain ⟨a, rfl, rfl⟩ := exists_behind (u := c ++ [',']) absent (by simpa using eq)
                obtain ⟨read, found, cut⟩ := ih _ rfl later
                refine ⟨el.texts ++ read, ?_, meanings_cons el _ ▸ cut.append el.texts⟩
                have step := quotedElements_step hb el hc (stops_cut later)
                rw [found] at step
                simpa [Except.map] using step

/-! ## The brackets of an array -/

theorem exists_of_bracketed {inner after : List Char} (h : Bracketed inner after) :
    ∃ raw, inside? '[' ']' (inner ++ ']' :: after) = some raw := by
  rcases h with closed | ⟨beyond, rest, rfl, closed, -⟩
  · exact ⟨_, inside?_nested (by decide) closed after⟩
  · have later := inside?_nested (by decide) closed rest
    exact ⟨_, by simpa using later⟩

theorem bracketed_iff {inner after raw : List Char}
    (found : inside? '[' ']' (inner ++ ']' :: after) = some raw) :
    Bracketed inner after ↔
      raw = inner ∨ ∃ beyond, raw = inner ++ ']' :: beyond ∧ NoText (']' :: beyond) := by
  have unique {other : List Char} (h : inside? '[' ']' (inner ++ ']' :: after) = some other) :
      raw = other := Option.some.inj (found.symm.trans h)
  obtain ⟨nested, rest, eq⟩ := (inside?_eq_some_iff (by decide)).mp found
  constructor
  · rintro (closed | ⟨beyond, rest, rfl, closed, none⟩)
    · exact .inl (unique (inside?_nested (by decide) closed after))
    · refine .inr ⟨beyond, unique ?_, none⟩
      have later := inside?_nested (by decide) closed rest
      simpa using later
  · rintro (rfl | ⟨beyond, rfl, none⟩)
    · exact .inl nested
    · refine .inr ⟨beyond, rest, ?_, nested, none⟩
      simpa using eq

theorem quotedElements_iff {els : List Element} {inner after raw rest : List Char}
    (listed : Listed (els.map Element.written) inner)
    (eq : inner ++ ']' :: after = raw ++ ']' :: rest) :
    quotedElements raw = .ok (meanings els) ↔
      raw = inner ∨ ∃ beyond, raw = inner ++ ']' :: beyond ∧ NoText (']' :: beyond) := by
  rcases List.append_eq_append_iff.mp eq with ⟨d, rfl, behind⟩ | ⟨d, rfl, behind⟩
  · cases d with
    | nil =>
        rw [List.append_nil]
        exact iff_of_true (quotedElements_inner listed) (.inl rfl)
    | cons x beyond =>
        obtain ⟨rfl, -⟩ := List.cons.inj behind
        rw [quotedElements_append listed (by simp [Ends])]
        have longer : inner ++ ']' :: beyond ≠ inner := by simp
        simp only [longer, false_or, List.append_cancel_left_eq, List.cons.injEq, true_and,
          exists_eq_left', ← quotedElements_eq_nil_iff]
        cases quotedElements (']' :: beyond) <;> simp [Except.map]
  · cases d with
    | nil =>
        rw [List.append_nil] at listed ⊢
        exact iff_of_true (quotedElements_inner listed) (.inl rfl)
    | cons x d =>
        obtain ⟨rfl, -⟩ := List.cons.inj behind
        obtain ⟨read, found, cut⟩ := quotedElements_cut listed
        rw [found, Except.ok.injEq]
        refine iff_of_false cut.ne ?_
        rintro (same | ⟨beyond, same, -⟩)
        · simpa using congrArg List.length same
        · have lengths := congrArg List.length same
          simp only [List.length_append, List.length_cons] at lengths
          omega

theorem eq_meanings_of_encodes {els : List Element} {vs : List (List Char)}
    (h : List.Forall₂ Encodes (encodings els) vs) : vs = meanings els := by
  rw [meanings]
  generalize encodings els = texts at h
  induction h with
  | nil => rfl
  | cons first _ ih => rw [List.map_cons, meaning_of_encodes first, ih]

theorem map_some_eq_ok_iff {α ε : Type} {r : Except ε α} {x : α} :
    r.map some = .ok (some x) ↔ r = .ok x := by
  cases r <;> simp [Except.map]

theorem strings?_eq_iff_bracketed {document field gap inner after : List Char}
    {els : List Element} {vs : List (List Char)}
    (held : Holds document field (gap ++ '[' :: (inner ++ ']' :: after))) (bracket : '[' ∉ gap)
    (listed : Listed (els.map Element.written) inner)
    (encodes : List.Forall₂ Encodes (encodings els) vs) :
    strings? document field = .ok (some vs) ↔ Bracketed inner after := by
  obtain rfl := eq_meanings_of_encodes encodes
  rw [strings?, array?_mark held bracket]
  cases found : inside? '[' ']' (inner ++ ']' :: after) with
  | none =>
      refine iff_of_false (fun h => by cases h) fun bracketed => ?_
      obtain ⟨raw, some⟩ := exists_of_bracketed bracketed
      rw [found] at some
      cases some
  | some raw =>
      obtain ⟨-, rest, eq⟩ := (inside?_eq_some_iff (by decide)).mp found
      rw [bracketed_iff found, ← quotedElements_iff listed eq]
      exact map_some_eq_ok_iff

theorem strings?_eq_iff_bracketed_closed :
    strings? "\x7b\"a\": [\"[1]\", 2 ,null]\x7d".toList ['a'] = .ok (some ["[1]".toList]) := by
  let e : List Encoded :=
    [.literal '[' (by decide), .literal '1' (by decide), .literal ']' (by decide)]
  have two : IsLiteral ['2'] :=
    @IsLiteral.intro [] ['2'] [] [] .none (by simp [AllDigits]) (by simp) .none .none
  let els : List Element := [.text e, .number ['2'] two, .null]
  have held : Holds "\x7b\"a\": [\"[1]\", 2 ,null]\x7d".toList ['a']
      ([' '] ++ '[' :: ("\"[1]\", 2 ,null".toList ++ ']' :: ['\x7d'])) :=
    ⟨['\x7b'], [], by decide +kernel, by decide +kernel, by decide⟩
  have listed : Listed (els.map Element.written) "\"[1]\", 2 ,null".toList := by
    have none : Blanks [] := by decide
    have space : Blanks [' '] := by decide
    exact .more none none (.more space space (.last none none))
  have encodes : List.Forall₂ Encodes (encodings els) ["[1]".toList] :=
    .cons (.literal (.literal (.literal .nil))) .nil
  have nested : Nested '[' ']' "\"[1]\", 2 ,null".toList := by
    have group : Nested '[' ']' ['[', '1', ']'] :=
      nested_group (s := ['1']) (nested_of_not_mem (by decide) (by decide))
    have after : Nested '[' ']' "\", 2 ,null".toList := nested_of_not_mem (by decide) (by decide)
    have both := nested_append group after
    exact .other (by decide) (by decide) both
  exact (strings?_eq_iff_bracketed held (by decide) listed encodes).mpr (.inl nested)

theorem not_texts_of_bracket :
    let document := "\x7b\"a\":[\"a]b\"]\x7d".toList
    let e : List Encoded :=
      [.literal 'a' (by decide), .literal ']' (by decide), .literal 'b' (by decide)]
    Holds document ['a'] ('[' :: (quoted e ++ ']' :: ['\x7d'])) ∧ Listed [quoted e] (quoted e) ∧
      Encodes e "a]b".toList ∧ strings? document ['a'] ≠ .ok (some ["a]b".toList]) := by
  intro document e
  have none : Blanks [] := by decide
  refine ⟨?_, ?_, .literal (.literal (.literal .nil)), ?_⟩
  · exact ⟨['\x7b'], [], by decide +kernel, by decide +kernel, by decide⟩
  · have alone := @Listed.last (quoted e) [] [] none none
    rwa [List.append_nil] at alone
  · have array : array? document ['a'] = some "\"a".toList := by rfl
    have cut : quotedElements "\"a".toList = .ok [['a']] :=
      quotedElements_unended none [.literal 'a' (by decide)]
    simp only [strings?, array, cut, Except.map]
    decide

end Sidekick.Field
