import Sidekick.Proofs.Field.Json

namespace Sidekick.Field
open Text Number Json

/-- In a text of `root`, the first quoted name of the field is the key of a member, whose value `v`
is written `t`. -/
def FirstMember (document field : List Char) (root v : Json) (t : List Char) : Prop :=
  ∃ key b a u w x y, Within (.entry (.member (meaning key) v)) (.entry (.element root)) b a ∧
    Space u ∧ NoBrackets (encodedText key) ∧ Space w ∧ Space x ∧ Written (.value v) t ∧ Space y ∧
    document = b ++ (u ++ (quoted key ++ (w ++ ':' :: (x ++ (t ++ (y ++ a)))))) ∧
    field = encodedText key ∧
    FirstOccurrence (quoted key) (b ++ u) (w ++ ':' :: (x ++ (t ++ (y ++ a))))

def FirstElement (t : List Char) (v : Json) (first : List Char) : Prop :=
  ∃ u rest, Space u ∧ Written (.value v) first ∧ t = '[' :: (u ++ (first ++ rest))

structure Found (document field : List Char) (v : Json) (t : List Char) : Prop where
  object : ∀ ms, v = .object ms → object? document field = some t
  array : ∀ vs, v = .array vs →
    ∃ inner, t = '[' :: (inner ++ [']']) ∧ array? document field = some inner
  noFirst : v = .array [] → firstObject? document field = none
  first : ∀ ms vs, v = .array (.object ms :: vs) →
    ∃ first, FirstElement t (.object ms) first ∧ firstObject? document field = some first
  number : ∀ s, v = .number s →
    t = s ∧ number? document field = read? s ∧ (read? s).isSome = true

theorem FirstMember.written {document field : List Char} {root v : Json} {t : List Char}
    (h : FirstMember document field root v t) : Written (.entry (.element root)) document := by
  obtain ⟨key, b, a, u, w, x, y, place, hu, plain, hw, hx, value, hy, rfl, -, -⟩ := h
  have member := place.written (.member hu plain hw (.element hx value hy))
  simpa using member

theorem stops_append_of_stops {p : Char → Bool} {s t : List Char} (hs : Stops p s)
    (ht : Stops p t) : Stops p (s ++ t) := by
  cases s with
  | nil => exact ht
  | cons c s => exact hs

theorem stops_space {s : List Char} (h : Space s) : Stops isNumberChar s := by
  have all : ∀ c ∈ spaceChars, isNumberChar c = false := by decide
  exact stops_of_forall fun c hc => all c (h c hc)

-- No part has a character of a number right behind it.
theorem Json.Within.stops {p q : Part} {b a : List Char} (h : Within p q b a) :
    Stops isNumberChar a := by
  induction h with
  | self => exact stops_nil _
  | array _ ih => exact stops_append_of_stops ih (stops_cons (by decide) _)
  | object _ ih => exact stops_append_of_stops ih (stops_cons (by decide) _)
  | element _ _ hw ih => exact stops_append_of_stops ih (stops_space hw)
  | member _ _ _ _ ih => exact ih
  | last _ ih => exact ih
  | first _ _ ih => exact stops_append_of_stops ih (stops_cons (by decide) _)
  | later _ _ ih => exact ih

theorem FirstMember.holds {document field : List Char} {root v : Json} {t : List Char}
    (h : FirstMember document field root v t) :
    ∃ x after, Space x ∧ Stops isNumberChar after ∧ Written (.value v) t ∧
      Holds document field (x ++ (t ++ after)) := by
  obtain ⟨key, b, a, u, w, x, y, place, hu, plain, hw, hx, value, hy, rfl, rfl, first⟩ := h
  refine ⟨x, y ++ a, hx, stops_append_of_stops (stops_space hy) place.stops, value, b ++ u, w, ?_,
    first, not_mem_of_space hw (by decide)⟩
  rw [List.append_assoc]
  rfl

variable {document field x after t : List Char}

theorem object?_written {ms : List (List Char × Json)}
    (held : Holds document field (x ++ (t ++ after))) (hx : Space x)
    (text : Written (.value (.object ms)) t) : object? document field = some t := by
  cases text with
  | @object _ s inner =>
      apply object?_eq_some
      refine ⟨x, s, after, ?_, not_mem_of_space hx (by decide), inner.balanced.1, rfl⟩
      simpa using held

theorem array?_written {vs : List Json} (held : Holds document field (x ++ (t ++ after)))
    (hx : Space x) (text : Written (.value (.array vs)) t) :
    ∃ inner, t = '[' :: (inner ++ [']']) ∧ array? document field = some inner := by
  cases text with
  | @array _ s inner =>
      refine ⟨s, rfl, array?_eq_some ⟨x, after, ?_, not_mem_of_space hx (by decide),
        inner.balanced.2⟩⟩
      simpa using held

theorem dropWhile_space {u rest : List Char} (h : Space u)
    (stops : Stops (fun c => c != '\x7b' && c != ']') rest) :
    (u ++ rest).dropWhile (fun c => c != '\x7b' && c != ']') = rest := by
  have all : ∀ c ∈ spaceChars, (c != '\x7b' && c != ']') = true := by decide
  exact dropWhile_run (fun c hc => all c (h c hc)) stops

theorem firstObject?_closing {u rest : List Char}
    (held : Holds document field (x ++ '[' :: (u ++ ']' :: rest))) (hx : Space x) (hu : Space u) :
    firstObject? document field = none := by
  have stops : Stops (fun c => c != '\x7b' && c != ']') (']' :: rest) := stops_cons (by decide) _
  rw [firstObject?, value?_eq_some held, Option.bind_some,
    after?_mark (not_mem_of_space hx (by decide)), Option.bind_some, dropWhile_space hu stops]
  rfl

theorem firstObject?_opening {u rest : List Char}
    (held : Holds document field (x ++ '[' :: (u ++ '\x7b' :: rest))) (hx : Space x)
    (hu : Space u) : firstObject? document field = braced? rest := by
  have stops : Stops (fun c => c != '\x7b' && c != ']') ('\x7b' :: rest) :=
    stops_cons (by decide) _
  rw [firstObject?, value?_eq_some held, Option.bind_some,
    after?_mark (not_mem_of_space hx (by decide)), Option.bind_some, dropWhile_space hu stops]
  rfl

theorem firstObject?_empty (held : Holds document field (x ++ (t ++ after))) (hx : Space x)
    (text : Written (.value (.array [])) t) : firstObject? document field = none := by
  generalize empty : Json.array [] = v at text
  cases text with
  | @array vs s inner =>
      cases empty
      cases inner with
      | none hw =>
          have closing : Holds document field (x ++ '[' :: (s ++ ']' :: after)) := by
            simpa using held
          exact firstObject?_closing closing hx hw
  | _ => cases empty

theorem firstElement_written {v : Json} {vs : List Json}
    (text : Written (.value (.array (v :: vs))) t) : ∃ first, FirstElement t v first := by
  have start {es : List Entry} {s : List Char} (h : Written (.entries (.element v :: es)) s) :
      ∃ u first rest, Space u ∧ Written (.value v) first ∧ s = u ++ (first ++ rest) := by
    cases h with
    | last element =>
        cases element with
        | element hu value _ => exact ⟨_, _, _, hu, value, rfl⟩
    | more element _ =>
        cases element with
        | element hu value _ => exact ⟨_, _, _, hu, value, by rw [List.append_assoc, List.append_assoc]⟩
  cases text with
  | array inner =>
      obtain ⟨u, first, rest, hu, value, rfl⟩ := start inner
      exact ⟨first, u, rest ++ [']'], hu, value, by simp⟩

theorem firstObject?_first {ms : List (List Char × Json)} {first : List Char}
    (held : Holds document field (x ++ (t ++ after))) (hx : Space x)
    (element : FirstElement t (.object ms) first) :
    firstObject? document field = some first := by
  obtain ⟨u, rest, hu, text, rfl⟩ := element
  cases text with
  | @object _ s inner =>
      have opening : Holds document field
          (x ++ '[' :: (u ++ '\x7b' :: (s ++ '\x7d' :: (rest ++ after)))) := by simpa using held
      rw [firstObject?_opening opening hx hu, braced?,
        inside?_nested (by decide) inner.balanced.1, Option.map_some]

theorem number?_written {s : List Char} (held : Holds document field (x ++ (t ++ after)))
    (hx : Space x) (stops : Stops isNumberChar after) (text : Written (.value (.number s)) t) :
    t = s ∧ number? document field = read? s ∧ (read? s).isSome = true := by
  cases text with
  | number literal =>
      have all : ∀ c ∈ numeralChars, isNumberChar c = true ∧ isBlank c = false := by decide
      have plain : ∀ c ∈ t, isNumberChar c = true ∧ isBlank c = false := fun c hc =>
        all c (literal.mem_numeralChars c hc)
      refine ⟨rfl, ?_, literal.isSome_read?⟩
      have start : Stops isBlank (t ++ after) := by
        cases t with
        | nil => exact absurd literal.isSome_read? (by decide)
        | cons c t => exact stops_cons (plain c List.mem_cons_self).2 _
      rw [number?, value?_eq_some held, Option.bind_some,
        trimStart_blanks (blanks_of_space hx) start,
        takeWhile_run (fun c hc => (plain c hc).1) stops]

theorem FirstMember.found {root v : Json} (h : FirstMember document field root v t) :
    Found document field v t := by
  obtain ⟨x, after, hx, stops, text, held⟩ := h.holds
  constructor
  · rintro ms rfl
    exact object?_written held hx text
  · rintro vs rfl
    exact array?_written held hx text
  · rintro rfl
    exact firstObject?_empty held hx text
  · rintro ms vs rfl
    obtain ⟨first, element⟩ := firstElement_written text
    exact ⟨first, element, firstObject?_first held hx element⟩
  · rintro s rfl
    exact number?_written held hx stops text

theorem found_of_firstMember {root v : Json} (h : FirstMember document field root v t) :
    Found document field v t ∧
      ∀ ms field' v' t', v = .object ms → FirstMember t field' v v' t' →
        ∃ slice, object? document field = some slice ∧ Found slice field' v' t' := by
  refine ⟨h.found, fun ms field' v' t' eq inner => ?_⟩
  exact ⟨t, h.found.object ms eq, inner.found⟩

theorem found_of_firstMember_nested :
    let document := "\x7b\"n\":1, \"in\" : \x7b\"n\":\t-2 \x7d \x7d".toList
    let slice := "\x7b\"n\":\t-2 \x7d".toList
    let inner : Json := .object [(['n'], .number ['-', '2'])]
    FirstMember document "in".toList
      (.object [(['n'], .number ['1']), (['i', 'n'], inner)]) inner slice ∧
    FirstMember slice "n".toList inner (.number ['-', '2']) ['-', '2'] ∧
    object? document "in".toList = some slice ∧ number? slice "n".toList = some (-2) := by
  intro document slice inner
  let i : Encoded := .literal 'i' (by decide)
  let n : Encoded := .literal 'n' (by decide)
  have one : Written (.value (.number ['1'])) ['1'] :=
    .number (@IsLiteral.intro [] ['1'] [] [] .none (by simp [AllDigits]) (by simp) .none .none)
  have two : Written (.value (.number ['-', '2'])) ['-', '2'] :=
    .number (@IsLiteral.intro ['-'] ['2'] [] [] .minus (by simp [AllDigits]) (by simp) .none .none)
  have none : Space [] := by decide
  have space : Space [' '] := by decide
  have tab : Space ['\t'] := by decide
  have before : Written (.entry (.member ['n'] (.number ['1']))) "\"n\":1".toList :=
    @Written.member [n] _ _ _ _ none (by decide) none (.element none one none)
  have member : Written (.entry (.member ['n'] (.number ['-', '2']))) "\"n\":\t-2 ".toList :=
    @Written.member [n] _ _ _ _ none (by decide) none (.element tab two space)
  have object : Written (.value inner) slice :=
    @Written.object [(['n'], .number ['-', '2'])] _ (.last member)
  have outside : FirstMember document "in".toList
      (.object [(['n'], .number ['1']), (['i', 'n'], inner)]) inner slice := by
    refine ⟨[i, n], "\x7b\"n\":1,".toList, ['\x7d'], [' '], [' '], [' '], [' '], ?_, space,
      by decide, space, space, object, space, by rfl, by rfl, by decide +kernel⟩
    have second := @Within.object _ [(['n'], .number ['1']), (['i', 'n'], inner)] _ _
      (.later before (.last .self))
    exact .element none second none
  have inside : FirstMember slice "n".toList inner (.number ['-', '2']) ['-', '2'] := by
    refine ⟨[n], ['\x7b'], ['\x7d'], [], [], ['\t'], [' '], ?_, none, by decide, none, tab, two,
      space, by rfl, by rfl, by decide +kernel⟩
    have only := @Within.object _ [(['n'], .number ['-', '2'])] _ _ (.last .self)
    exact .element none only none
  obtain ⟨found, composed⟩ := found_of_firstMember outside
  obtain ⟨slice', same, nested⟩ := composed _ _ _ _ rfl inside
  have whole := found.object _ rfl
  obtain rfl : slice = slice' := Option.some.inj (whole.symm.trans same)
  refine ⟨outside, inside, whole, ?_⟩
  rw [(nested.number _ rfl).2.1]
  rfl

end Sidekick.Field
