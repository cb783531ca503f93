import Sidekick.Field.Lookup

/-!
# Places

A place is read from the first result of a search by name.
-/

namespace Sidekick.Weather

structure Place where
  latitude : Float
  longitude : Float
  name : String
  zone : Option String

/-- The place that an answer gives for a query: its first result, if that has both coordinates.
A result without a name is called by the query. -/
def Place.parse? (answer : List Char) (query : String) : Except Fault (Option Place) :=
  match Field.firstObject? answer "results".toList with
  | none => .ok none
  | some result =>
    match Field.number? result "latitude".toList, Field.number? result "longitude".toList with
    | some latitude, some longitude => do
      let name ← Field.string? result "name".toList
      let zone ← Field.string? result "timezone".toList
      let name := match name with
        | none | some [] => query
        | some name => String.ofList name
      return some ⟨latitude, longitude, name, zone.map String.ofList⟩
    | _, _ => .ok none

end Sidekick.Weather
