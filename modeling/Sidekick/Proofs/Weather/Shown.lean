import Sidekick.Weather.Report
import Sidekick.Proofs.Number.Written
import Sidekick.Proofs.Text.Spacing

namespace Sidekick.Weather
open Number Text

/-- A number that lines can show: it is finite, and so is ten times it. -/
def Moderate (x : Float) : Prop := (finite x).isOk = true ∧ (finite (x * 10)).isOk = true

instance (x : Float) : Decidable (Moderate x) := inferInstanceAs (Decidable (_ ∧ _))

structure Row.Moderate (r : Row) : Prop where
  high : ∀ x ∈ r.high, Weather.Moderate x
  low : ∀ x ∈ r.low, Weather.Moderate x
  chance : ∀ x ∈ r.chance, Weather.Moderate x
  rain : ∀ x ∈ r.rain, Weather.Moderate x

@[ext]
structure Shown where
  description : String
  temperature : Option String
  chance : Option String
  rain : Option String

def shownText (show? : Float → Except Fault String) (value : Option Float) : Option String :=
  value.bind fun x => (show? x).toOption

def temperatures : Option String → Option String → Option String
  | some high, some low => some (low ++ "–" ++ high)
  | some high, none => some ("max " ++ high)
  | none, _ => none

def Row.hourShown (r : Row) : Shown :=
  ⟨r.description, shownText tenths r.high, shownText percent r.chance,
    shownText tenths (r.rain.filter (0 < ·))⟩

def Row.dayShown (r : Row) : Shown :=
  { r.hourShown with
    temperature := temperatures (shownText tenths r.high) (shownText tenths r.low) }

def marked (before after : String) (value : Option String) : List String :=
  value.toList.map fun t => before ++ t ++ after

def Shown.parts (s : Shown) : List String :=
  marked "🌡️ " "°C" s.temperature ++ (marked "☔ " "" s.chance ++ marked "🌧️ " " mm" s.rain)

def Shown.text (s : Shown) : String := s.description ++ "  " ++ joinParts s.parts

/-! ## Writing lines -/

theorem isOk_eq_true {ε α : Type} {r : Except ε α} (h : r.isOk = true) : ∃ a, r = .ok a := by
  cases r with
  | ok a => exact ⟨a, rfl⟩
  | error e => cases h

theorem tenths_eq_ok {x : Float} (h : Moderate x) : ∃ t, tenths x = .ok t ∧ Written t := by
  obtain ⟨b, hb⟩ := isOk_eq_true h.2
  refine ⟨text (nearestQuotient (signed b.negative (b.countPlaces 0)) 10), ?_, written_text _⟩
  rw [tenths, Number.round, hb]
  rfl

theorem percent_eq_ok {x : Float} (h : Moderate x) : ∃ t, percent x = .ok t ∧ Written t := by
  obtain ⟨b, hb⟩ := isOk_eq_true h.1
  have mark : Written "%" := ⟨by decide, by decide⟩
  refine ⟨toString (signed b.negative b.wholePart) ++ "%", ?_, ?_⟩
  · rw [percent, truncate, hb]
    rfl
  · exact .append (written_toString_int _).chars mark

theorem part_eq_ok {show? : Float → Except Fault String} {value : Option Float}
    (h : ∀ x ∈ value, ∃ t, show? x = .ok t ∧ Written t) (before after : String) :
    part show? before after value = .ok (marked before after (shownText show? value)) := by
  cases value with
  | none => rfl
  | some x =>
      obtain ⟨t, ht, -⟩ := h x rfl
      simp only [part, ht, shownText, Option.bind_some]
      rfl

theorem written_shownText {show? : Float → Except Fault String} {value : Option Float}
    (h : ∀ x ∈ value, ∃ t, show? x = .ok t ∧ Written t) :
    ∀ t ∈ shownText show? value, Written t := by
  intro t ht
  obtain ⟨x, hx, ht⟩ := Option.bind_eq_some_iff.mp ht
  obtain ⟨u, hu, written⟩ := h x hx
  rw [hu] at ht
  obtain rfl := Option.some.inj ht
  exact written

theorem isSome_shownText {show? : Float → Except Fault String} {value : Option Float}
    (h : ∀ x ∈ value, ∃ t, show? x = .ok t ∧ Written t) :
    (shownText show? value).isSome = value.isSome := by
  cases value with
  | none => rfl
  | some x =>
      obtain ⟨t, ht, -⟩ := h x rfl
      simp only [shownText, Option.bind_some, ht]
      rfl

section
variable {r : Row} (h : r.Moderate)
include h

theorem Row.Moderate.high_ok : ∀ x ∈ r.high, ∃ t, tenths x = .ok t ∧ Written t :=
  fun x hx => tenths_eq_ok (h.high x hx)

theorem Row.Moderate.low_ok : ∀ x ∈ r.low, ∃ t, tenths x = .ok t ∧ Written t :=
  fun x hx => tenths_eq_ok (h.low x hx)

theorem Row.Moderate.chance_ok : ∀ x ∈ r.chance, ∃ t, percent x = .ok t ∧ Written t :=
  fun x hx => percent_eq_ok (h.chance x hx)

theorem Row.Moderate.rain_ok :
    ∀ x ∈ r.rain.filter (0 < ·), ∃ t, tenths x = .ok t ∧ Written t :=
  fun x hx => tenths_eq_ok (h.rain x (Option.mem_filter_iff.mp hx).1)

theorem slotLine_eq_ok (label : String) :
    slotLine label r = .ok ("• " ++ label ++ ": " ++ r.hourShown.text) := by
  rw [slotLine, part_eq_ok h.high_ok, part_eq_ok h.chance_ok, rainPart, part_eq_ok h.rain_ok]
  simp [Shown.text, Shown.parts, Row.hourShown, String.append_assoc, bind, Except.bind, pure,
    Except.pure]

theorem temperaturePart_eq_ok :
    temperaturePart r = .ok (marked "🌡️ " "°C" r.dayShown.temperature) := by
  have high_ok := h.high_ok
  have low_ok := h.low_ok
  simp only [temperaturePart, Row.dayShown]
  cases high : r.high with
  | none => rfl
  | some x =>
      obtain ⟨t, ht, -⟩ := high_ok x high
      cases low : r.low with
      | none =>
          have label : "🌡️ max " = "🌡️ " ++ "max " := by decide
          simp only [ht, shownText, Option.bind_some, Option.bind_none]
          simp [Except.toOption, temperatures, marked, String.append_assoc, bind, Except.bind, pure,
            Except.pure]
          rw [label, String.append_assoc]
      | some y =>
          obtain ⟨u, hu, -⟩ := low_ok y low
          simp only [ht, hu, shownText, Option.bind_some]
          simp [Except.toOption, temperatures, marked, String.append_assoc, bind, Except.bind, pure,
            Except.pure]

theorem dayLine_eq_ok (date : String) : dayLine date r =
    .ok ("• " ++ weekdayText date ++ " " ++ date ++ " " ++ r.dayShown.text) := by
  rw [dayLine, temperaturePart_eq_ok h, part_eq_ok h.chance_ok, rainPart, part_eq_ok h.rain_ok]
  simp [Shown.text, Shown.parts, Row.dayShown, Row.hourShown, String.append_assoc, bind,
    Except.bind, pure, Except.pure]

end

/-! ## What lines tell apart -/

/-- Texts whose lines can be read back: there are no two spaces in what they show. -/
structure Shown.Tidy (s : Shown) : Prop where
  description : s.description.toList = [] ∨ Tight s.description.toList
  temperature : ∀ t ∈ s.temperature, Tight (t ++ "°C").toList
  chance : ∀ t ∈ s.chance, Written t
  rain : ∀ t ∈ s.rain, Written t

theorem not_mem_written {s : String} {c : Char} (h : Written s) (other : c ∉ writtenChars) :
    c ∉ s.toList :=
  fun mem => other (h.chars c mem)

theorem tight_written_append {s t : String} (h : Written s) (space : ' ' ∉ t.toList) :
    Tight (s ++ t).toList := by
  rw [String.toList_append]
  apply tight_word
  · simp [h.nonempty]
  · rw [List.mem_append, not_or]
    exact ⟨not_mem_written h (by decide), space⟩

theorem tight_mark {before t after : String} {w : List Char} (hw : Tight w)
    (label : before.toList = w ++ [' ']) (body : Tight (t ++ after).toList) :
    Tight (before ++ t ++ after).toList := by
  rw [String.append_assoc, String.toList_append, label, List.append_assoc]
  exact hw.words body

theorem Shown.Tidy.parts {s : Shown} (h : s.Tidy) : ∀ p ∈ s.parts, Tight p.toList := by
  intro p hp
  simp only [Shown.parts, List.mem_append, marked, List.mem_map, Option.mem_toList] at hp
  rcases hp with ⟨t, ht, rfl⟩ | ⟨t, ht, rfl⟩ | ⟨t, ht, rfl⟩
  · exact tight_mark (w := "🌡️".toList) (by decide) (by decide) (h.temperature t ht)
  · have body := tight_written_append (t := "") (h.chance t ht) (by decide)
    exact tight_mark (w := "☔".toList) (by decide) (by decide) body
  · have amount := tight_written_append (t := "") (h.rain t ht) (by decide)
    rw [String.append_empty] at amount
    have body : Tight (t ++ " mm").toList := by
      rw [String.toList_append]
      exact amount.words (t := "mm".toList) (by decide)
    exact tight_mark (w := "🌧️".toList) (by decide) (by decide) body

theorem doubleSpaced_toList (parts : List String) :
    (joinParts parts).toList = doubleSpaced (parts.map String.toList) := String.toList_intercalate

theorem map_toList_inj {ps qs : List String} (h : ps.map String.toList = qs.map String.toList) :
    ps = qs := by
  have back := congrArg (List.map String.ofList) h
  simpa [List.map_map, Function.comp_def] using back

theorem head?_mark {before t after : String} {c : Char} (first : before.toList.head? = some c) :
    (before ++ t ++ after).toList.head? = some c := by
  rw [String.append_assoc, String.toList_append, List.head?_append, first]
  rfl

-- The first part with these marks, if the others begin otherwise.
theorem marked_append_inj {before after : String} {value value' : Option String}
    {rest rest' : List String} {c : Char} (first : before.toList.head? = some c)
    (other : ∀ p ∈ rest, p.toList.head? ≠ some c) (other' : ∀ p ∈ rest', p.toList.head? ≠ some c)
    (h : marked before after value ++ rest = marked before after value' ++ rest') :
    value = value' ∧ rest = rest' := by
  have begins (t : String) : (before ++ t ++ after).toList.head? = some c := head?_mark first
  cases value with
  | none =>
      cases value' with
      | none => exact ⟨rfl, h⟩
      | some t =>
          have mem : before ++ t ++ after ∈ rest := by
            rw [show rest = (before ++ t ++ after) :: rest' from h]
            exact List.mem_cons_self
          exact absurd (begins t) (other _ mem)
  | some t =>
      cases value' with
      | none =>
          have mem : before ++ t ++ after ∈ rest' := by
            rw [show rest' = (before ++ t ++ after) :: rest from h.symm]
            exact List.mem_cons_self
          exact absurd (begins t) (other' _ mem)
      | some t' =>
          obtain ⟨same, rests⟩ := List.cons.inj h
          rw [String.append_left_inj, String.append_right_inj] at same
          exact ⟨congrArg some same, rests⟩

theorem head?_marked {before after : String} {value : Option String} {c : Char}
    (first : before.toList.head? = some c) :
    ∀ p ∈ marked before after value, p.toList.head? = some c := by
  intro p hp
  obtain ⟨t, -, rfl⟩ := List.mem_map.mp hp
  exact head?_mark first

theorem Shown.parts_inj {s s' : Shown} (h : s.parts = s'.parts) :
    s.temperature = s'.temperature ∧ s.chance = s'.chance ∧ s.rain = s'.rain := by
  have chance {a : Option String} : ∀ p ∈ marked "☔ " "" a, p.toList.head? = some '☔' :=
    head?_marked (by decide)
  have rain {a : Option String} : ∀ p ∈ marked "🌧️ " " mm" a, p.toList.head? = some '🌧' :=
    head?_marked (by decide)
  have other {a b : Option String} :
      ∀ p ∈ marked "☔ " "" a ++ marked "🌧️ " " mm" b, p.toList.head? ≠ some '🌡' := by
    intro p hp
    rcases List.mem_append.mp hp with hp | hp
    · rw [chance p hp]
      decide
    · rw [rain p hp]
      decide
  have other' {b : Option String} : ∀ p ∈ marked "🌧️ " " mm" b, p.toList.head? ≠ some '☔' := by
    intro p hp
    rw [rain p hp]
    decide
  obtain ⟨temperature, h⟩ := marked_append_inj (by decide) other other h
  obtain ⟨chance, h⟩ := marked_append_inj (by decide) other' other' h
  have last : marked "🌧️ " " mm" s.rain ++ [] = marked "🌧️ " " mm" s'.rain ++ [] :=
    congrArg (· ++ []) h
  have rain := marked_append_inj (c := '🌧') (by decide) (by simp) (by simp) last
  exact ⟨temperature, chance, rain.1⟩

theorem Shown.text_inj {s s' : Shown} (hs : s.Tidy) (hs' : s'.Tidy) :
    s.text = s'.text ↔ s = s' := by
  constructor
  · intro h
    have chars := congrArg String.toList h
    simp only [Shown.text, String.toList_append, doubleSpaced_toList, List.append_assoc] at chars
    obtain ⟨description, parts⟩ := append_inj_of_tight hs.description hs'.description chars
    have tight {s : Shown} (hs : s.Tidy) : ∀ p ∈ s.parts.map String.toList, Tight p := by
      intro p hp
      obtain ⟨q, hq, rfl⟩ := List.mem_map.mp hp
      exact hs.parts q hq
    have same := map_toList_inj (doubleSpaced_inj_of_tight (tight hs) (tight hs') parts)
    obtain ⟨temperature, chance, rain⟩ := Shown.parts_inj same
    exact Shown.ext (String.toList_inj.mp description) temperature chance rain
  · rintro rfl
    rfl

/-! ## What rows show -/

theorem tight_describeCode (code : Int) : Tight (describeCode code).toList := by
  unfold describeCode
  split <;> decide +kernel

theorem tight_description (r : Row) : r.description.toList = [] ∨ Tight r.description.toList := by
  cases code : r.code with
  | none => exact .inl (by simp [Row.description, code])
  | some c => exact .inr (by simpa [Row.description, code] using tight_describeCode c)

section
variable {r : Row} (h : r.Moderate)
include h

theorem tidy_hourShown : r.hourShown.Tidy where
  description := tight_description r
  temperature t ht := by
    have written := written_shownText h.high_ok t ht
    exact tight_written_append written (by decide)
  chance := written_shownText h.chance_ok
  rain := written_shownText h.rain_ok

theorem tidy_dayShown : r.dayShown.Tidy where
  description := tight_description r
  temperature t ht := by
    have high := written_shownText h.high_ok
    have low := written_shownText h.low_ok
    simp only [Row.dayShown] at ht
    cases max : shownText tenths r.high with
    | none =>
        rw [max] at ht
        cases ht
    | some u =>
        have written := high u max
        have space : ' ' ∉ (u ++ "°C").toList := by
          rw [String.toList_append, List.mem_append, not_or]
          exact ⟨not_mem_written written (by decide), by decide⟩
        cases min : shownText tenths r.low with
        | none =>
            rw [max, min] at ht
            obtain rfl := Option.some.inj ht
            exact tight_mark (w := "max".toList) (by decide) (by decide)
              (tight_written_append written (by decide))
        | some v =>
            rw [max, min] at ht
            obtain rfl := Option.some.inj ht
            rw [String.append_assoc, String.append_assoc]
            apply tight_written_append (low v min)
            rw [String.toList_append, List.mem_append, not_or]
            exact ⟨by decide, space⟩
  chance := written_shownText h.chance_ok
  rain := written_shownText h.rain_ok

end

/-! ## What is there is shown -/

theorem isSome_code_of_description {r s : Row} (h : r.description = s.description) :
    r.code.isSome = s.code.isSome := by
  have ne (code : Int) : describeCode code ≠ "" := by
    intro empty
    have tight := tight_describeCode code
    rw [empty] at tight
    exact tight.ne_nil rfl
  simp only [Row.description] at h
  cases hr : r.code with
  | none =>
      cases hs : s.code with
      | none => rfl
      | some c =>
          rw [hr, hs] at h
          exact absurd h.symm (ne c)
  | some c =>
      cases hs : s.code with
      | none =>
          rw [hr, hs] at h
          exact absurd h (ne c)
      | some d => rfl

theorem isSome_temperatures (high low : Option String) :
    (temperatures high low).isSome = high.isSome := by
  cases high with
  | none => rfl
  | some u => cases low <;> rfl

theorem isSome_low_of_temperatures {u u' : String} {low low' : Option String} (hu : Written u)
    (hu' : Written u') (h : temperatures (some u) low = temperatures (some u') low') :
    low.isSome = low'.isSome := by
  have alone {v : String} (hv : Written v) : '–' ∉ ("max " ++ v).toList := by
    rw [String.toList_append, List.mem_append, not_or]
    exact ⟨by decide, not_mem_written hv (by decide)⟩
  have both (v w : String) : '–' ∈ (w ++ "–" ++ v).toList := by simp
  cases low with
  | none =>
      cases low' with
      | none => rfl
      | some w =>
          have same : "max " ++ u = w ++ "–" ++ u' := Option.some.inj h
          exact absurd (both u' w) (same ▸ alone hu)
  | some w =>
      cases low' with
      | none =>
          have same : w ++ "–" ++ u = "max " ++ u' := Option.some.inj h
          exact absurd (both u w) (same ▸ alone hu')
      | some w' => rfl

structure Row.SamePresent (r s : Row) : Prop where
  code : r.code.isSome = s.code.isSome
  high : r.high.isSome = s.high.isSome
  chance : r.chance.isSome = s.chance.isSome
  rain : (r.rain.filter (0 < ·)).isSome = (s.rain.filter (0 < ·)).isSome

theorem isSome_of_shownText {show? : Float → Except Fault String} {value value' : Option Float}
    (h : ∀ x ∈ value, ∃ t, show? x = .ok t ∧ Written t)
    (h' : ∀ x ∈ value', ∃ t, show? x = .ok t ∧ Written t)
    (same : shownText show? value = shownText show? value') : value.isSome = value'.isSome := by
  rw [← isSome_shownText h, same, isSome_shownText h']

theorem samePresent_of_hourShown {r s : Row} (hr : r.Moderate) (hs : s.Moderate)
    (h : r.hourShown = s.hourShown) : r.SamePresent s where
  code := isSome_code_of_description (congrArg Shown.description h)
  high := isSome_of_shownText hr.high_ok hs.high_ok (congrArg Shown.temperature h)
  chance := isSome_of_shownText hr.chance_ok hs.chance_ok (congrArg Shown.chance h)
  rain := isSome_of_shownText hr.rain_ok hs.rain_ok (congrArg Shown.rain h)

theorem samePresent_of_dayShown {r s : Row} (hr : r.Moderate) (hs : s.Moderate)
    (h : r.dayShown = s.dayShown) :
    r.SamePresent s ∧ (s.high.isSome = true → r.low.isSome = s.low.isSome) := by
  have temperature : temperatures (shownText tenths r.high) (shownText tenths r.low) =
      temperatures (shownText tenths s.high) (shownText tenths s.low) :=
    congrArg Shown.temperature h
  have high : r.high.isSome = s.high.isSome := by
    have same := congrArg Option.isSome temperature
    rwa [isSome_temperatures, isSome_temperatures, isSome_shownText hr.high_ok,
      isSome_shownText hs.high_ok] at same
  constructor
  · exact {
      code := isSome_code_of_description (congrArg Shown.description h)
      high := high
      chance := isSome_of_shownText hr.chance_ok hs.chance_ok (congrArg Shown.chance h)
      rain := isSome_of_shownText hr.rain_ok hs.rain_ok (congrArg Shown.rain h) }
  · intro present
    obtain ⟨x, hx⟩ := Option.isSome_iff_exists.mp (high.trans present)
    obtain ⟨y, hy⟩ := Option.isSome_iff_exists.mp present
    obtain ⟨u, hu, writtenU⟩ := hr.high_ok x hx
    obtain ⟨v, hv, writtenV⟩ := hs.high_ok y hy
    simp only [hx, hy, shownText, Option.bind_some, hu, hv, Except.toOption] at temperature
    have low := isSome_low_of_temperatures writtenU writtenV temperature
    exact (isSome_shownText hr.low_ok).symm.trans (low.trans (isSome_shownText hs.low_ok))

end Sidekick.Weather
