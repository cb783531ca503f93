import Sidekick.Proofs.Field.Json

namespace Sidekick.Field
open Text Number Json

inductive Element where
  | text (e : List Encoded)
  | number (s : List Char) (literal : IsLiteral s)
  | bool (b : Bool)
  | null

namespace Element

def written : Element → List Char
  | text e => quoted e
  | number s _ => s
  | bool b => if b then "true".toList else "false".toList
  | null => nullText

def encoded? : Element → Option (List Encoded)
  | text e => some e
  | _ => none

end Element

def encodings (els : List Element) : List (List Encoded) := els.filterMap Element.encoded?

def NoText (s : List Char) : Prop := ∀ part ∈ splitAt ',' s, (trimStart part).head? ≠ some '\x22'

/-! ## Passing over what is no text -/

variable {s b c w : List Char}

theorem quotedElements_eq (s : List Char) : quotedElements s =
    match trimStart s with
    | [] => .ok []
    | c :: t =>
      if c = '\x22' then do
        let first ← decode t
        return first :: (← quotedElements (afterQuoted t))
      else quotedElements (afterComma (c :: t)) := by
  rw [quotedElements]
  split <;> rename_i start <;> rw [start]

theorem quotedElements_of_trimStart {s t : List Char} (h : trimStart s = trimStart t) :
    quotedElements s = quotedElements t := by
  rw [quotedElements_eq s, quotedElements_eq t, h]

theorem quotedElements_blanks {b : List Char} (h : Blanks b) : quotedElements b = .ok [] := by
  have start := trimStart_blanks h (stops_nil isBlank)
  rw [List.append_nil] at start
  rw [quotedElements_eq, start]

theorem afterComma_append {u : List Char} (h : ',' ∉ u) (s : List Char) :
    afterComma (u ++ s) = afterComma s := by
  have plain : ∀ x ∈ u, (x != ',') = true := by
    intro x hx
    simpa using fun eq : x = ',' => h (eq ▸ hx)
  rw [afterComma, afterComma, List.dropWhile_append_of_pos plain]

theorem afterComma_comma (s : List Char) : afterComma (',' :: s) = s := rfl

theorem afterComma_trimStart (s : List Char) : afterComma (trimStart s) = afterComma s := by
  have parts : s.takeWhile isBlank ++ trimStart s = s := List.takeWhile_append_dropWhile
  have blanks := comma_not_mem_of_blanks (blanks_takeWhile s)
  rw [← afterComma_append blanks (trimStart s), parts]

theorem quotedElements_skip (h : (trimStart s).head? ≠ some '\x22') :
    quotedElements s = quotedElements (afterComma s) := by
  rw [quotedElements_eq s, ← afterComma_trimStart]
  cases start : trimStart s with
  | nil => exact (quotedElements_blanks (b := []) (by decide)).symm
  | cons x t =>
      rw [start] at h
      have other : x ≠ '\x22' := fun eq => h (congrArg some eq)
      simp only [if_neg other]

theorem quotedElements_ne_nil (h : (trimStart s).head? = some '\x22') :
    quotedElements s ≠ .ok [] := by
  obtain ⟨t, start⟩ := List.head?_eq_some_iff.mp h
  rw [quotedElements_eq, start]
  simp only [if_true]
  cases decode t with
  | error fault => exact fun h => by cases h
  | ok first =>
      cases quotedElements (afterQuoted t) with
      | error fault => exact fun h => by cases h
      | ok others => exact fun h => by cases h

theorem head?_trimStart_append {p : List Char} :
    (trimStart (p ++ ',' :: s)).head? = some '\x22' ↔ (trimStart p).head? = some '\x22' := by
  have comma : trimStart (',' :: s) = ',' :: s := by
    have plain : isBlank ',' = false := by decide
    simp [trimStart, plain]
  rw [trimStart, List.dropWhile_append, ← trimStart, ← trimStart, comma]
  cases trimStart p <;> simp

theorem quotedElements_eq_nil_iff (s : List Char) : quotedElements s = .ok [] ↔ NoText s := by
  by_cases comma : ',' ∈ s
  · obtain ⟨p, r, rfl, absent⟩ := List.eq_append_cons_of_mem comma
    have split : NoText (p ++ ',' :: r) ↔ (trimStart p).head? ≠ some '\x22' ∧ NoText r := by
      rw [NoText, splitAt_append, splitAt_of_not_mem absent, List.singleton_append,
        List.forall_mem_cons]
      rfl
    rw [split, ne_eq, ← head?_trimStart_append (s := r), ← quotedElements_eq_nil_iff r]
    by_cases quote : (trimStart (p ++ ',' :: r)).head? = some '\x22'
    · exact iff_of_false (quotedElements_ne_nil quote) fun h => h.1 quote
    · rw [quotedElements_skip quote, afterComma_append absent, afterComma_comma]
      exact ⟨fun h => ⟨quote, h⟩, fun h => h.2⟩
  · rw [NoText, splitAt_of_not_mem comma, List.forall_mem_singleton]
    by_cases quote : (trimStart s).head? = some '\x22'
    · exact iff_of_false (quotedElements_ne_nil quote) fun h => h quote
    · have rest : afterComma s = [] := by simpa [afterComma] using afterComma_append comma []
      rw [quotedElements_skip quote, rest, quotedElements_blanks (by decide)]
      exact iff_of_true rfl quote
termination_by s.length
decreasing_by simp_all; omega

/-! ## Walking over the elements -/

structure IsPlain (w : List Char) : Prop where
  ne_nil : w ≠ []
  plain : ∀ x ∈ w, isBlank x = false ∧ x ∉ [',', '\x22', ']']

theorem Element.text_or_plain (el : Element) :
    (∃ e, el = .text e) ∨ el.encoded? = none ∧ IsPlain el.written := by
  cases el with
  | text e => exact .inl ⟨e, rfl⟩
  | number s literal =>
      have all : ∀ x ∈ numeralChars, isBlank x = false ∧ x ∉ [',', '\x22', ']'] := by decide
      refine .inr ⟨rfl, ?_, fun x hx => all x (literal.mem_numeralChars x hx)⟩
      rintro rfl
      exact absurd literal.isSome_read? (by decide)
  | bool b => exact .inr ⟨rfl, by cases b <;> decide, by cases b <;> decide⟩
  | null => exact .inr ⟨rfl, by decide, by decide⟩

def Element.texts (el : Element) : List (List Char) := (el.encoded?.map meaning).toList

def meanings (els : List Element) : List (List Char) := (encodings els).map meaning

theorem meanings_cons (el : Element) (els : List Element) :
    meanings (el :: els) = el.texts ++ meanings els := by
  rw [meanings, encodings, List.filterMap_cons, Element.texts]
  cases el.encoded? <;> rfl

theorem map_meanings_cons (el : Element) (els : List Element)
    (r : Except Fault (List (List Char))) :
    (r.map (meanings els ++ ·)).map (el.texts ++ ·) = r.map (meanings (el :: els) ++ ·) := by
  cases r <;> simp [Except.map, meanings_cons]

theorem quotedElements_plain (hb : Blanks b) (hw : IsPlain w) (s : List Char) :
    quotedElements (b ++ (w ++ s)) = quotedElements (afterComma s) := by
  obtain ⟨x, r, rfl⟩ := List.exists_cons_of_ne_nil hw.ne_nil
  have first := hw.plain x List.mem_cons_self
  have start : trimStart (b ++ (x :: r ++ s)) = x :: r ++ s :=
    trimStart_blanks hb (stops_cons first.1 _)
  have comma : ',' ∉ x :: r := fun mem => absurd (hw.plain _ mem).2 (by decide)
  have quote : (trimStart (b ++ (x :: r ++ s))).head? ≠ some '\x22' := by
    rw [start]
    rintro eq
    obtain rfl : x = '\x22' := Option.some.inj eq
    exact absurd first.2 (by decide)
  rw [quotedElements_skip quote, afterComma_append (comma_not_mem_of_blanks hb),
    afterComma_append comma]

theorem quotedElements_text (hb : Blanks b) (e : List Encoded) (s : List Char) :
    quotedElements (b ++ (quoted e ++ s)) =
      (quotedElements (s.dropWhile fun c => isBlank c || c == ',')).map (meaning e :: ·) := by
  have quote : isBlank '\x22' = false := by decide
  have start : trimStart (b ++ (quoted e ++ s)) = '\x22' :: (encodedText e ++ '\x22' :: s) := by
    rw [quoted, List.cons_append, List.append_assoc, trimStart_blanks hb (stops_cons quote _)]
    rfl
  have after : afterQuoted (encodedText e ++ '\x22' :: s) =
      s.dropWhile fun c => isBlank c || c == ',' := by
    rw [afterQuoted, items_encodedText]
    rfl
  rw [quotedElements_eq, start]
  simp only [if_true, decode_encodedText, after]
  cases quotedElements (s.dropWhile fun c => isBlank c || c == ',') <;> rfl

theorem quotedElements_step (hb : Blanks b) (el : Element) (hc : Blanks c)
    (start : Stops (· == ',') (trimStart s)) :
    quotedElements (b ++ (el.written ++ (c ++ ',' :: s))) =
      (quotedElements s).map (el.texts ++ ·) := by
  -- Behind a text the blanks and commas are passed over, behind another element all up to a comma.
  rcases el.text_or_plain with ⟨e, rfl⟩ | ⟨none, plain⟩
  · have run : (c ++ ',' :: s).dropWhile (fun x => isBlank x || x == ',') = trimStart s := by
      have parts : c ++ ',' :: s = (c ++ ',' :: s.takeWhile isBlank) ++ trimStart s := by
        simp [trimStart]
      rw [parts]
      apply dropWhile_run
      · intro x hx
        rcases List.mem_append.mp hx with hx | hx
        · simp [hc x hx]
        · rcases List.mem_cons.mp hx with rfl | hx
          · simp
          · simp [blanks_takeWhile s x hx]
      · intro x hx
        simp only [Bool.or_eq_false_iff]
        exact ⟨head?_trimStart hx, start x hx⟩
    have same : trimStart (trimStart s) = trimStart s :=
      dropWhile_of_stops fun x hx => head?_trimStart hx
    rw [Element.written, quotedElements_text hb, run, quotedElements_of_trimStart same]
    rfl
  · rw [quotedElements_plain hb plain, afterComma_append (comma_not_mem_of_blanks hc),
      afterComma_comma, Element.texts, none]
    cases quotedElements s <;> rfl

def Ends (s : List Char) : Prop := ∀ x ∈ s.head?, x = ']'

theorem Ends.stops {p : Char → Bool} (h : Ends s) (bracket : p ']' = false) : Stops p s := by
  intro x hx
  rw [h x hx, bracket]

theorem quotedElements_ends (h : Ends s) : quotedElements (afterComma s) = quotedElements s := by
  have start : trimStart s = s := dropWhile_of_stops (h.stops (by decide))
  refine (quotedElements_skip ?_).symm
  rw [start]
  intro quote
  exact absurd (h _ quote) (by decide)

theorem quotedElements_last (hb : Blanks b) (el : Element) (hc : Blanks c) (ends : Ends s) :
    quotedElements (b ++ (el.written ++ (c ++ s))) = (quotedElements s).map (el.texts ++ ·) := by
  rcases el.text_or_plain with ⟨e, rfl⟩ | ⟨none, plain⟩
  · have run : (c ++ s).dropWhile (fun x => isBlank x || x == ',') = s :=
      dropWhile_run (fun x hx => by simp [hc x hx]) (ends.stops (by decide))
    rw [Element.written, quotedElements_text hb, run]
    rfl
  · rw [quotedElements_plain hb plain, afterComma_append (comma_not_mem_of_blanks hc),
      quotedElements_ends ends, Element.texts, none]
    cases quotedElements s <;> rfl

theorem Element.head (el : Element) :
    ∃ x r, el.written = x :: r ∧ isBlank x = false ∧ x ≠ ',' ∧ x ≠ ']' := by
  rcases el.text_or_plain with ⟨e, rfl⟩ | ⟨-, plain⟩
  · exact ⟨'\x22', _, rfl, by decide, by decide, by decide⟩
  · obtain ⟨x, r, eq⟩ := List.exists_cons_of_ne_nil plain.ne_nil
    obtain ⟨blank, marks⟩ := plain.plain x (eq ▸ List.mem_cons_self)
    simp only [List.mem_cons, List.not_mem_nil, or_false, not_or] at marks
    exact ⟨x, r, eq, blank, marks.1, marks.2.2⟩

theorem stops_element (hb : Blanks b) (el : Element) (s : List Char) :
    Stops (· == ',') (trimStart (b ++ (el.written ++ s))) := by
  obtain ⟨x, r, eq, blank, comma, -⟩ := el.head
  rw [eq, List.cons_append, trimStart_blanks hb (stops_cons blank _)]
  exact stops_cons (p := (· == ',')) (beq_false_of_ne comma) _

theorem Listed.start {t : List Char} {ts : List (List Char)} {s : List Char}
    (h : Listed (t :: ts) s) : ∃ b rest, Blanks b ∧ s = b ++ (t ++ rest) := by
  cases h with
  | last hb _ => exact ⟨_, _, hb, rfl⟩
  | more hb _ _ => exact ⟨_, _, hb, rfl⟩

theorem quotedElements_append {els : List Element} {t : List Char}
    (h : Listed (els.map Element.written) s) (ends : Ends t) :
    quotedElements (s ++ t) = (quotedElements t).map (meanings els ++ ·) := by
  induction els generalizing s with
  | nil =>
      cases h with
      | none hb =>
          have start := trimStart_blanks hb (ends.stops (p := isBlank) (by decide))
          have same : trimStart t = t := dropWhile_of_stops (ends.stops (by decide))
          rw [quotedElements_of_trimStart (start.trans same.symm)]
          cases quotedElements t <;> rfl
  | cons el els ih =>
      cases els with
      | nil =>
          cases h with
          | last hb hc =>
              rw [List.append_assoc, List.append_assoc, quotedElements_last hb el hc ends,
                ← map_meanings_cons]
              cases quotedElements t <;> rfl
      | cons f els =>
          cases h with
          | @more _ _ b c r _ hb hc later =>
              have tail := ih later
              obtain ⟨b', rest, hb', rfl⟩ := later.start
              have start := stops_element hb' f (rest ++ t)
              rw [List.append_assoc, List.append_assoc] at tail
              simp only [List.append_assoc, List.cons_append]
              rw [quotedElements_step hb el hc start, tail, map_meanings_cons]

theorem quotedElements_inner {els : List Element} {inner : List Char}
    (listed : Listed (els.map Element.written) inner) :
    quotedElements inner = .ok (meanings els) := by
  have whole := quotedElements_append listed (t := []) (by simp [Ends])
  rw [List.append_nil, quotedElements_blanks (b := []) (by decide)] at whole
  simpa [Except.map] using whole

theorem quotedElements_listed {es : List (List Encoded)} {s : List Char}
    (h : Listed (es.map quoted) s) : quotedElements s = .ok (es.map meaning) := by
  have listed : Listed ((es.map Element.text).map Element.written) s := by rwa [List.map_map]
  have texts : encodings (es.map .text) = es := by
    rw [encodings, List.filterMap_map]
    exact List.filterMap_some
  rw [quotedElements_inner listed, meanings, texts]

theorem strings?_eq_ok {document field : List Char} {es : List (List Encoded)}
    (h : HoldsElements document field (es.map quoted)) :
    strings? document field = .ok (some (es.map meaning)) := by
  obtain ⟨s, held, listed⟩ := h
  simp only [strings?, array?_eq_some held, quotedElements_listed listed]
  rfl

end Sidekick.Field
