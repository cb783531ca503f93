import Sidekick.Weather.Place
import Sidekick.Proofs.Field.Own

namespace Sidekick.Weather
open Number Sidekick.Field Sidekick.Field.Json

structure SearchResult (text : List Char) (ms : List (List Char × Json))
    (latitude longitude name zone : Option (List Char)) : Prop where
  latitude : HasField text "latitude".toList ms (latitude.map .number)
  longitude : HasField text "longitude".toList ms (longitude.map .number)
  name : HasField text "name".toList ms (name.map .string)
  zone : HasField text "timezone".toList ms (zone.map .string)

def nameOr (query : String) : Option (List Char) → String
  | none | some [] => query
  | some name => String.ofList name

section

variable {text field : List Char} {ms : List (List Char × Json)} {literal s : Option (List Char)}

theorem number?_eq_bind (h : HasField text field ms (literal.map .number)) :
    number? text field = literal.bind read? := by
  have reads := h.reads
  cases literal with
  | none => exact (reads.nothing rfl).1
  | some x => exact (reads.number x rfl).1

theorem string?_eq_ok (h : HasField text field ms (s.map .string)) :
    string? text field = .ok s := by
  have reads := h.reads
  cases s with
  | none => exact (reads.nothing rfl).2
  | some x => exact reads.string x rfl

theorem isSome_literal {x : List Char} (h : HasField text field ms (some (.number x))) :
    ∃ value, read? x = some value :=
  Option.isSome_iff_exists.mp (h.reads.number x rfl).2

end

section

variable {answer first : List Char} {ms : List (List Char × Json)} {query : String}
  {latitude longitude name zone : Option (List Char)}

theorem parse?_eq_ok (found : firstObject? answer "results".toList = some first)
    (stated : SearchResult first ms latitude longitude name zone) :
    Place.parse? answer query = .ok (do
      let x ← latitude.bind read?
      let y ← longitude.bind read?
      return ⟨x, y, nameOr query name, zone.map String.ofList⟩) := by
  rw [Place.parse?, found]
  simp only [number?_eq_bind stated.latitude, number?_eq_bind stated.longitude,
    string?_eq_ok stated.name, string?_eq_ok stated.zone]
  cases latitude.bind read? with
  | none => rfl
  | some x =>
      cases longitude.bind read? with
      | none => rfl
      | some y => rcases name with _ | _ | _ <;> rfl

end

/-- The place is that of a result which has both coordinates; without one of them there is none. -/
structure PlaceOf (answer : List Char) (query : String)
    (latitude longitude name zone : Option (List Char)) : Prop where
  missing : latitude = none ∨ longitude = none → Place.parse? answer query = .ok none
  found : ∀ x y, latitude = some x → longitude = some y →
    ∃ place, Place.parse? answer query = .ok (some place) ∧
      read? x = some place.latitude ∧ read? y = some place.longitude ∧
      place.name = nameOr query name ∧ place.zone = zone.map String.ofList

theorem parse?_of_results {answer t : List Char} {root : Json} {results : List Json}
    (h : FirstMember answer "results".toList root (.array results) t) (query : String) :
    (results = [] → Place.parse? answer query = .ok none) ∧
      ∀ ms others first latitude longitude name zone, results = .object ms :: others →
        FirstElement t (.object ms) first → SearchResult first ms latitude longitude name zone →
          PlaceOf answer query latitude longitude name zone := by
  obtain ⟨before, after, hx, -, text, held⟩ := h.holds
  constructor
  · rintro rfl
    rw [Place.parse?, firstObject?_empty held hx text]
  · rintro ms others first latitude longitude name zone rfl element stated
    have parsed := @parse?_eq_ok _ _ _ query _ _ _ _ (firstObject?_first held hx element) stated
    constructor
    · rintro (rfl | rfl)
      · exact parsed
      · rw [parsed]
        cases latitude.bind read? <;> rfl
    · rintro x y rfl rfl
      obtain ⟨a, ha⟩ := isSome_literal stated.latitude
      obtain ⟨b, hb⟩ := isSome_literal stated.longitude
      simp only [Option.bind_some, ha, hb] at parsed
      exact ⟨_, parsed, ha, hb, rfl, rfl⟩

theorem parse?_of_results_two :
    let first := "\x7b\"latitude\" : 1,\"longitude\":-2,\"name\":\"\"\x7d".toList
    let t := '[' :: (first ++ ",\x7b\"timezone\":\"Z\"\x7d ]".toList)
    let answer := "\x7b\"results\":".toList ++ (t ++ ['\x7d'])
    let ms : List (List Char × Json) := [("latitude".toList, .number ['1']),
      ("longitude".toList, .number ['-', '2']), ("name".toList, .string [])]
    let results : List Json := [.object ms, .object [("timezone".toList, .string ['Z'])]]
    FirstMember answer "results".toList (.object [("results".toList, .array results)])
        (.array results) t ∧ FirstElement t (.object ms) first ∧
      SearchResult first ms (some ['1']) (some ['-', '2']) (some []) none ∧
      ∃ place, Place.parse? answer "Bern" = .ok (some place) ∧ place.latitude = 1 ∧
        place.longitude = -2 ∧ place.name = "Bern" ∧ place.zone = none := by
  intro first t answer ms results
  let latitude := literals "latitude".toList (by decide)
  let longitude := literals "longitude".toList (by decide)
  let name := literals "name".toList (by decide)
  let timezone := literals "timezone".toList (by decide)
  have none : Space [] := by decide
  have space : Space [' '] := by decide
  have one : Written (.value (.number ['1'])) ['1'] :=
    .number (@IsLiteral.intro [] ['1'] [] [] .none (by simp [AllDigits]) (by simp) .none .none)
  have two : Written (.value (.number ['-', '2'])) ['-', '2'] :=
    .number (@IsLiteral.intro ['-'] ['2'] [] [] .minus (by simp [AllDigits]) (by simp) .none .none)
  have empty : Written (.value (.string [])) ['\x22', '\x22'] := @Written.string [] (by decide)
  have zulu : Written (.value (.string ['Z'])) ['\x22', 'Z', '\x22'] :=
    @Written.string [.literal 'Z' (by decide)] (by decide)
  have north : Written (.entry (.member "latitude".toList (.number ['1'])))
      "\"latitude\" : 1".toList :=
    @Written.member latitude _ _ _ _ none (by decide) space (.element space one none)
  have west : Written (.entry (.member "longitude".toList (.number ['-', '2'])))
      "\"longitude\":-2".toList :=
    @Written.member longitude _ _ _ _ none (by decide) none (.element none two none)
  have called : Written (.entry (.member "name".toList (.string []))) "\"name\":\"\"".toList :=
    @Written.member name _ _ _ _ none (by decide) none (.element none empty none)
  have zoned : Written (.entry (.member "timezone".toList (.string ['Z'])))
      "\"timezone\":\"Z\"".toList :=
    @Written.member timezone _ _ _ _ none (by decide) none (.element none zulu none)
  have inner : Written (.value (.object ms)) first :=
    @Written.object ms _ (.more north (.more west (.last called)))
  have other : Written (.entry (.element (.object [("timezone".toList, .string ['Z'])])))
      "\x7b\"timezone\":\"Z\"\x7d ".toList :=
    .element none (@Written.object [("timezone".toList, .string ['Z'])] _ (.last zoned)) space
  have array : Written (.value (.array results)) t :=
    @Written.array results _ (.more (.element none inner none) (.last other))
  have found : FirstMember answer "results".toList (.object [("results".toList, .array results)])
      (.array results) t := by
    refine ⟨literals "results".toList (by decide), ['\x7b'], ['\x7d'], [], [], [], [], ?_, none,
      by decide, none, none, array, none, by rfl, by rfl, by decide +kernel⟩
    have only := @Within.object _ [("results".toList, .array results)] _ _ (.last .self)
    exact .element none only none
  have element : FirstElement t (.object ms) first :=
    ⟨[], ",\x7b\"timezone\":\"Z\"\x7d ]".toList, none, inner, rfl⟩
  have stated : SearchResult first ms (some ['1']) (some ['-', '2']) (some []) Option.none := by
    refine ⟨.own ?_, .own ?_, .own ?_, .missing (by decide +kernel)⟩
    · exact ⟨latitude, [], _, [], [' '], [' '], ['1'], [], .first (.more west (.last called)), none,
        by decide, space, space, one, none, by rfl, by rfl, by decide +kernel⟩
    · exact ⟨longitude, _, _, [], [], [], ['-', '2'], [], .later north (.first (.last called)), none,
        by decide, none, none, two, none, by rfl, by rfl, by decide +kernel⟩
    · exact ⟨name, _, [], [], [], [], _, [], .later north (.later west .last), none,
        by decide, none, none, empty, none, by rfl, by rfl, by decide +kernel⟩
  obtain ⟨place, parsed, x, y, called, zone⟩ :=
    ((parse?_of_results found "Bern").2 _ _ _ _ _ _ _ rfl element stated).found _ _ rfl rfl
  exact ⟨found, element, stated, place, parsed, (Option.some.inj x).symm, (Option.some.inj y).symm,
    called, zone⟩

end Sidekick.Weather
