import Sidekick.Weather.Service
import Sidekick.Proofs.Field.Failing
import Sidekick.Proofs.Text.Words
import Sidekick.Proofs.Web.Fetching

namespace Sidekick.Weather
open Text Web Sidekick.Field

def Finds (r : Option Response) (name : String) (place : Place) : Prop :=
  ∃ text, answer r = .ok text ∧ Place.parse? text.toList name = .ok (some place)

def Lost (r : Option Response) (name : String) : Prop := ∀ place, ¬ Finds r name place

def HasUnreadable (text : List Char) : Prop :=
  ∃ result, firstObject? text "results".toList = some result ∧
    (Field.number? result "latitude".toList).isSome ∧
    (Field.number? result "longitude".toList).isSome ∧
    (HasNegative result "name".toList ∨ HasNegative result "timezone".toList)

def Unreadable (r : Option Response) : Prop :=
  ∃ text, answer r = .ok text ∧ HasUnreadable text.toList

def placeOf (r : Option Response) (name : String) : Except Fault (Option Place) :=
  match answer r with
  | .error _ => .ok none
  | .ok text => Place.parse? text.toList name

variable {r : Option Response} {name : String}

theorem bind_string?_eq_error_iff {α : Type} {result field field' : List Char} {fault : Fault}
    (f : Option (List Char) → Option (List Char) → α) :
    (do
      let name ← string? result field
      let zone ← string? result field'
      return f name zone) = Except.error fault ↔
    (HasNegative result field ∨ HasNegative result field') ∧ fault = .negativeCharacter := by
  cases name : string? result field with
  | error fault' =>
      obtain ⟨negative, rfl⟩ := string?_eq_error_iff.mp name
      simp [bind, Except.bind, negative, eq_comm]
  | ok name' =>
      have first := not_hasNegative_of_ok name
      cases zone : string? result field' with
      | error fault' =>
          obtain ⟨negative, rfl⟩ := string?_eq_error_iff.mp zone
          simp [bind, Except.bind, negative, eq_comm]
      | ok zone' =>
          have second := not_hasNegative_of_ok zone
          simp [bind, Except.bind, pure, Except.pure, first, second]

theorem parse?_eq_error_iff {text : List Char} {fault : Fault} :
    Place.parse? text name = .error fault ↔ HasUnreadable text ∧ fault = .negativeCharacter := by
  rw [HasUnreadable, Place.parse?]
  cases firstObject? text "results".toList with
  | none => simp
  | some result =>
      simp only [Option.some.injEq, exists_eq_left']
      cases Field.number? result "latitude".toList with
      | none => simp
      | some latitude =>
          cases Field.number? result "longitude".toList with
          | none => simp
          | some longitude =>
              simp only [Option.isSome_some, true_and]
              exact bind_string?_eq_error_iff _

theorem placeOf_eq_some_iff {place : Place} :
    placeOf r name = .ok (some place) ↔ Finds r name place := by
  rw [placeOf, Finds]
  cases answer r <;> simp

theorem placeOf_eq_error_iff {fault : Fault} :
    placeOf r name = .error fault ↔ Unreadable r ∧ fault = .negativeCharacter := by
  rw [placeOf, Unreadable]
  cases answer r with
  | error fault => simp
  | ok text => simp [parse?_eq_error_iff]

def placeRequest (name : String) : WebRequest := ⟨placeUrl name, [agent], timeout⟩

def forecastRequest (place : Place) : WebRequest := ⟨forecastUrl place, [agent], timeout⟩

def reportOf (place : Place) (clock : Float) (r : Option Response) : Except Fault String := do
  let forecast ← answer r
  let seconds ← Calendar.wholeSeconds clock
  report place forecast.toList seconds

theorem orTell_eq {α : Type} (label : String) (act : Act α) : orTell label act =
    rescued act fun fault => "  [weather] " ++ label ++ " failed: " ++ fault.message := rfl

theorem run_locate (name : String) (w : World) : ∃ v, Requested (placeRequest name) w v ∧
    (locate name).run w = (placeOf w.responses.head? name, v) := by
  obtain ⟨u, first, asked⟩ := run_fetch (placeUrl name) [agent] w
  obtain ⟨v, run, asked⟩ := run_rescued first asked fun fault =>
    "  [weather] " ++ ("geocoding " ++ quote name) ++ " failed: " ++ fault.message
  refine ⟨v, asked, ?_⟩
  rw [locate, orTell_eq, Act.run_bind, run, placeOf]
  cases answer w.responses.head? with
  | error fault => rfl
  | ok text => exact Act.run_ofExcept _ _

theorem run_reportNow (place : Place) (w : World) : ∃ v,
    (reportNow place).run w = (reportOf place w.clock w.responses.head?, v) ∧
      Requested (forecastRequest place) w v := by
  obtain ⟨v, first, asked⟩ := run_fetch (forecastUrl place) [agent] w
  refine ⟨v, ?_, asked⟩
  rw [reportNow, Act.run_bind, first, reportOf]
  cases answer w.responses.head? with
  | error fault => rfl
  | ok forecast =>
      simp only [Act.run_bind, Act.run_get, Act.run_ofExcept, asked.clock]
      cases Calendar.wholeSeconds w.clock <;> rfl

def city (args : String) : String := String.ofList (trim args.toList)

def notFound (name : String) : String :=
  "🌤️ I couldn’t fetch weather for “" ++ name ++ "”. Try a larger city name " ++
    "(e.g., `Berlin`, `Munich`, `Hamburg`)."

def noForecast (place : Place) : String := "🌤️ Couldn’t fetch forecast for " ++ place.name ++ "."

/-- There is a reply. The usage is told without a request if there is no city; else the city is
searched for, and the forecast is asked for just if it is found. -/
structure Answered (args : String) (w : World) (out : Except Fault String × World) : Prop where
  replies : ∃ text, out.1 = .ok text
  blank : Blanks args.toList → out = (.ok usage, w)
  lost : ¬ Blanks args.toList → Lost w.responses[0]? (city args) →
    out.1 = .ok (notFound (city args)) ∧
      out.2.events = w.events ++ [.requested (placeRequest (city args))]
  found : ¬ Blanks args.toList → ∀ place, Finds w.responses[0]? (city args) place →
    out.1 = .ok ((reportOf place w.clock w.responses[1]?).toOption.getD (noForecast place)) ∧
      out.2.events = w.events ++
        [.requested (placeRequest (city args)), .requested (forecastRequest place)]

def Stuck (args : String) (rs : List Response) : Prop :=
  ¬ Blanks args.toList ∧ Unreadable rs[0]?

theorem isEmpty_city (args : String) : (city args).isEmpty = decide (Blanks args.toList) := by
  rw [Bool.eq_iff_iff, String.isEmpty_iff, decide_eq_true_iff, ← trim_eq_nil_iff, city,
    ← String.toList_inj, String.toList_ofList]
  rfl

def tell (place : Place) : Act String := do
  match ← orTell ("forecast for " ++ place.name) (reportNow place) with
  | none => return noForecast place
  | some text => return text

theorem reply_eq (args : String) : reply args =
    if (city args).isEmpty then pure usage
    else locate (city args) >>= fun
      | none => pure (notFound (city args))
      | some place => tell place := rfl

theorem run_tell (place : Place) (w : World) : ∃ v, Requested (forecastRequest place) w v ∧
    (tell place).run w =
      (.ok ((reportOf place w.clock w.responses.head?).toOption.getD (noForecast place)), v) := by
  obtain ⟨u, now, asked⟩ := run_reportNow place w
  obtain ⟨v, run, asked⟩ := run_rescued now asked fun fault =>
    "  [weather] " ++ ("forecast for " ++ place.name) ++ " failed: " ++ fault.message
  refine ⟨v, asked, ?_⟩
  rw [tell, orTell_eq, Act.run_bind, run]
  cases reportOf place w.clock w.responses.head? <;> rfl

theorem run_reply_blank {args : String} (blank : Blanks args.toList) (w : World) :
    (reply args).run w = (.ok usage, w) := by
  have empty := (isEmpty_city args).trans (decide_eq_true blank)
  rw [reply_eq, if_pos empty, Act.run_pure]

theorem run_reply_city {args : String} (named : ¬ Blanks args.toList) (w : World) :
    ∃ v, (reply args).run w = ((placeOf w.responses[0]? (city args)).map fun
        | none => notFound (city args)
        | some place =>
          (reportOf place w.clock w.responses[1]?).toOption.getD (noForecast place), v) ∧
      ∀ found, placeOf w.responses[0]? (city args) = .ok found → v.events = w.events ++
        .requested (placeRequest (city args)) ::
          (found.toList.map fun place => .requested (forecastRequest place)) := by
  have some := (isEmpty_city args).trans (decide_eq_false named)
  obtain ⟨u, asked, run⟩ := run_locate (city args) w
  rw [List.head?_eq_getElem?] at run
  rw [reply_eq, some, if_neg Bool.false_ne_true, Act.run_bind, run]
  cases placeOf w.responses[0]? (city args) with
  | error fault => exact ⟨u, rfl, fun _ h => by cases h⟩
  | ok found =>
      cases found with
      | none =>
          refine ⟨u, rfl, fun found h => ?_⟩
          obtain rfl := Except.ok.inj h
          exact asked.events
      | some place =>
          obtain ⟨v, again, run⟩ := run_tell place u
          rw [asked.clock, asked.responses, List.head?_eq_getElem?, List.getElem?_tail] at run
          refine ⟨v, run, fun found h => ?_⟩
          obtain rfl := Except.ok.inj h
          rw [again.events, asked.events, List.append_assoc]
          rfl

theorem answered_iff (args : String) (w : World) :
    (Answered args w ((reply args).run w) ↔ ¬ Stuck args w.responses) ∧
      (Stuck args w.responses → ((reply args).run w).1 = .error .negativeCharacter) := by
  by_cases blank : Blanks args.toList
  · have free : ¬ Stuck args w.responses := fun stuck => stuck.1 blank
    rw [run_reply_blank blank]
    refine ⟨iff_of_true ⟨⟨usage, rfl⟩, fun _ => rfl, ?_, ?_⟩ free, fun stuck => absurd stuck free⟩
    · exact fun named => absurd blank named
    · exact fun named => absurd blank named
  · obtain ⟨v, run, events⟩ := run_reply_city blank w
    rw [run]
    cases found : placeOf w.responses[0]? (city args) with
    | error fault =>
        obtain ⟨unread, rfl⟩ := placeOf_eq_error_iff.mp found
        refine ⟨iff_of_false (fun h => ?_) fun free => free ⟨blank, unread⟩, fun _ => rfl⟩
        obtain ⟨text, eq⟩ := h.replies
        cases eq
    | ok place =>
        have free : ¬ Stuck args w.responses := fun stuck => by
          have failed : placeOf w.responses[0]? (city args) = .error .negativeCharacter :=
            placeOf_eq_error_iff.mpr ⟨stuck.2, rfl⟩
          rw [found] at failed
          cases failed
        refine ⟨iff_of_true ⟨⟨_, rfl⟩, fun h => absurd h blank, ?_, ?_⟩ free,
          fun stuck => absurd stuck free⟩
        · intro _ lost
          cases place with
          | none => exact ⟨rfl, events _ found⟩
          | some place => exact absurd (placeOf_eq_some_iff.mp found) (lost place)
        · intro _ place' finds
          have same := placeOf_eq_some_iff.mpr finds
          rw [found] at same
          obtain rfl := Except.ok.inj same
          exact ⟨rfl, events _ found⟩

end Sidekick.Weather
