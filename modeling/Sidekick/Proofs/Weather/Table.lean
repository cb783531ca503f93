import Sidekick.Proofs.Field.Texts
import Sidekick.Proofs.Weather.Compaction
import Sidekick.Proofs.Weather.Shown

namespace Sidekick.Weather
open Number Sidekick.Field

structure Entry where
  time : List Encoded
  high : List Char
  low : List Char
  chance : List Char
  rain : List Char
  code : List Char

def Entry.timeText (e : Entry) : String := String.ofList (meaning e.time)

def Entry.row (e : Entry) : Row :=
  ⟨read? e.high, read? e.low, read? e.chance, read? e.rain, integer? e.code⟩

def IsModerateCell (t : List Char) : Prop := IsNumberCell t ∧ ∀ x ∈ read? t, Moderate x

instance (t : List Char) : Decidable (IsModerateCell t) := inferInstanceAs (Decidable (_ ∧ _))

/-- The time has no brackets or braces, the values are moderate numbers or null, and the code is an
integer or null. -/
structure Entry.Valid (e : Entry) : Prop where
  time : ∀ c ∈ encodedText e.time, c ∉ ['[', ']', '\x7b', '\x7d']
  high : IsModerateCell e.high
  low : IsModerateCell e.low
  chance : IsModerateCell e.chance
  rain : IsModerateCell e.rain
  code : IsIntegerCell e.code

theorem Entry.Valid.moderate {e : Entry} (h : e.Valid) : e.row.Moderate :=
  ⟨h.high.2, h.low.2, h.chance.2, h.rain.2⟩

structure Fields where
  name : String
  high : String
  low : Option String
  chance : String
  rain : String

def dayFields : Fields :=
  ⟨"daily", "temperature_2m_max", some "temperature_2m_min", "precipitation_probability_max",
    "precipitation_sum"⟩

def hourFields : Fields :=
  ⟨"hourly", "temperature_2m", none, "precipitation_probability", "precipitation"⟩

structure HoldsColumns (object : List Char) (fields : Fields) (table : List Entry) : Prop where
  times : HoldsElements object "time".toList (table.map fun e => quoted e.time)
  highs : HoldsElements object fields.high.toList (table.map (·.high))
  lows : ∀ low ∈ fields.low, HoldsElements object low.toList (table.map (·.low))
  chances : HoldsElements object fields.chance.toList (table.map (·.chance))
  rains : HoldsElements object fields.rain.toList (table.map (·.rain))
  codes : HoldsElements object "weather_code".toList (table.map (·.code))

def HoldsTable (forecast : List Char) (fields : Fields) (table : List Entry) : Prop :=
  ∃ object, HoldsObject forecast fields.name.toList object ∧ HoldsColumns object fields table

def dayColumns (table : List Entry) : Columns where
  times := table.map Entry.timeText
  highs := table.filterMap (·.row.high)
  lows := table.filterMap (·.row.low)
  chances := table.filterMap (·.row.chance)
  rains := table.filterMap (·.row.rain)
  codes := table.filterMap (·.row.code)

def hourColumns (table : List Entry) : Columns := { dayColumns table with lows := [] }

variable {object : List Char} {fields : Fields} {table : List Entry}

theorem times_eq_ok (held : HoldsColumns object fields table) :
    times object = .ok (table.map Entry.timeText) := by
  have texts : HoldsElements object "time".toList ((table.map Entry.time).map quoted) := by
    rw [List.map_map]
    exact held.times
  rw [times, strings?_eq_ok texts]
  simp [Entry.timeText, bind, Except.bind, pure, Except.pure]

theorem numbers_eq (field : String) {cell : Entry → List Char}
    (held : HoldsElements object field.toList (table.map cell))
    (cells : ∀ e ∈ table, IsNumberCell (cell e)) :
    numbers object field = table.filterMap fun e => read? (cell e) := by
  have found := numbers?_eq_some held fun t ht => by
    obtain ⟨e, he, rfl⟩ := List.mem_map.mp ht
    exact cells e he
  rw [numbers, found, Option.getD_some, List.filterMap_map]
  rfl

theorem codes_eq_ok (held : HoldsColumns object fields table)
    (valid : ∀ e ∈ table, e.Valid) :
    codes object = .ok (table.filterMap (·.row.code)) := by
  have found := integers?_eq_ok held.codes fun t ht => by
    obtain ⟨e, he, rfl⟩ := List.mem_map.mp ht
    exact (valid e he).code
  rw [codes, found]
  simp only [bind, Except.bind, pure, Except.pure, Option.getD_some, List.filterMap_map]
  rfl

theorem dailyColumns_eq_ok (held : HoldsColumns object dayFields table)
    (valid : ∀ e ∈ table, e.Valid) : dailyColumns object = .ok (dayColumns table) := by
  rw [dailyColumns, times_eq_ok held, codes_eq_ok held valid,
    numbers_eq "temperature_2m_max" held.highs fun e he => (valid e he).high.1,
    numbers_eq "temperature_2m_min" (held.lows _ rfl) fun e he => (valid e he).low.1,
    numbers_eq "precipitation_probability_max" held.chances fun e he => (valid e he).chance.1,
    numbers_eq "precipitation_sum" held.rains fun e he => (valid e he).rain.1]
  rfl

theorem hourlyColumns_eq_ok (held : HoldsColumns object hourFields table)
    (valid : ∀ e ∈ table, e.Valid) : hourlyColumns object = .ok (hourColumns table) := by
  rw [hourlyColumns, times_eq_ok held, codes_eq_ok held valid,
    numbers_eq "temperature_2m" held.highs fun e he => (valid e he).high.1,
    numbers_eq "precipitation_probability" held.chances fun e he => (valid e he).chance.1,
    numbers_eq "precipitation" held.rains fun e he => (valid e he).rain.1]
  rfl

end Sidekick.Weather
