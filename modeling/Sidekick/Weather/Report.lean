import Sidekick.Calendar.Zone
import Sidekick.Weather.Place

/-!
# Weather reports

A report has the weather of now, the parts of today that are still ahead, and the days to come. Its
numbers are looked up in the forecast; a line shows those that are there.
-/

namespace Sidekick.Weather
open Number Calendar

def describeCode (code : Int) : String :=
  match code with
  | 0 => "☀️ Clear"
  | 1 | 2 => "🌤️ Mostly clear"
  | 3 => "☁️ Cloudy"
  | 45 | 48 => "🌫️ Fog"
  | 51 | 53 | 55 => "🌦️ Drizzle"
  | 61 | 63 | 65 => "🌧️ Rain"
  | 66 | 67 => "🌧️🌡️ Freezing rain"
  | 71 | 73 | 75 => "🌨️ Snow"
  | 77 => "❄️ Snow grains"
  | 80 | 81 | 82 => "🌦️ Showers"
  | 85 | 86 => "🌨️ Snow showers"
  | 95 => "⛈️ Thunderstorm"
  | 96 | 99 => "⛈️⚠️ Thunderstorm (hail)"
  | _ => "🌍 Weather"

def tenths (x : Float) : Except Fault String := do
  return text (nearestQuotient (← wholeOrFault (round (x * 10))) 10)

/-- A number without its fraction, as a percentage. -/
def percent (x : Float) : Except Fault String := do
  return toString (← wholeOrFault (truncate x)) ++ "%"

/-- The part of a line that a number gives, if it is there. -/
def part (show? : Float → Except Fault String) (before after : String) :
    Option Float → Except Fault (List String)
  | none => .ok []
  | some x => do return [before ++ (← show? x) ++ after]

def rainPart (amount : Option Float) : Except Fault (List String) :=
  part tenths "🌧️ " " mm" (amount.filter (0 < ·))

/-- The parts of a line, apart by two spaces. -/
def joinParts (parts : List String) : String := "  ".intercalate parts

def number? (data : List Char) (field : String) : Option Float :=
  Field.number? data field.toList

def currentLine (forecast : List Char) : Except Fault (Option String) :=
  match Field.object? forecast "current".toList with
  | none => .ok none
  | some current =>
    match number? current "temperature_2m" with
    | none => .ok none
    | some temperature => do
      let parts := ["Now: " ++ (← tenths temperature) ++ "°C"]
        ++ (← part tenths "(feels " "°C)" (number? current "apparent_temperature"))
        ++ (← part percent "💧" "" (number? current "relative_humidity_2m"))
        ++ (← part tenths "💨" " m/s" (number? current "wind_speed_10m"))
        ++ (← rainPart (number? current "precipitation"))
      let description ← match number? current "weather_code" with
        | none => pure ""
        | some code => do pure (" – " ++ describeCode (← wholeOrFault (truncate code)))
      return some ("• " ++ joinParts parts ++ description)

structure Columns where
  times : List String
  highs : List Float
  lows : List Float
  chances : List Float
  rains : List Float
  codes : List Int

structure Row where
  high : Option Float
  low : Option Float
  chance : Option Float
  rain : Option Float
  code : Option Int

def Columns.row (c : Columns) (i : Nat) : Row :=
  ⟨c.highs[i]?, c.lows[i]?, c.chances[i]?, c.rains[i]?, c.codes[i]?⟩

/-- The numbers of a field; none if it is missing. -/
def numbers (data : List Char) (field : String) : List Float :=
  (Field.numbers? data field.toList).getD []

def times (data : List Char) : Except Fault (List String) := do
  return ((← Field.strings? data "time".toList).getD []).map String.ofList

def codes (data : List Char) : Except Fault (List Int) := do
  return (← Field.integers? data "weather_code".toList).getD []

/-- The columns of the hours; they have one temperature each. -/
def hourlyColumns (data : List Char) : Except Fault Columns := do
  return {
    times := ← times data
    highs := numbers data "temperature_2m"
    lows := []
    chances := numbers data "precipitation_probability"
    rains := numbers data "precipitation"
    codes := ← codes data }

def dailyColumns (data : List Char) : Except Fault Columns := do
  return {
    times := ← times data
    highs := numbers data "temperature_2m_max"
    lows := numbers data "temperature_2m_min"
    chances := numbers data "precipitation_probability_max"
    rains := numbers data "precipitation_sum"
    codes := ← codes data }

def Row.description (r : Row) : String := (r.code.map describeCode).getD ""

/-! ## Later today -/

/-- The parts of a day, and the hours they are told by. -/
def slots : List (String × Nat) := [("Afternoon", 12), ("Evening", 18), ("Night", 22)]

def slotLine (label : String) (r : Row) : Except Fault String := do
  let parts := (← part tenths "🌡️ " "°C" r.high) ++ (← part percent "☔ " "" r.chance)
    ++ (← rainPart r.rain)
  return "• " ++ label ++ ": " ++ r.description ++ "  " ++ joinParts parts

def timeIndex? (times : List String) (date : Date) (hour : Nat) : Option Nat :=
  let stamp := date.text ++ "T" ++ padded 2 hour
  times.findIdx? (stamp.toList.isPrefixOf ·.toList)

/-- The lines of the parts of today whose hour is still to come. -/
def slotLines (hours : Columns) (localTime : Int) : List (String × Nat) → Except Fault (List String)
  | [] => .ok []
  | (label, hour) :: rest =>
    if hour ≤ hourOf localTime then slotLines hours localTime rest
    else match timeIndex? hours.times (dateOf localTime) hour with
      | none => slotLines hours localTime rest
      | some i => do
        let line ← slotLine label (hours.row i)
        return line :: (← slotLines hours localTime rest)

def laterLines (forecast : List Char) (localTime : Int) : Except Fault (List String) :=
  match Field.object? forecast "hourly".toList with
  | none => .ok []
  | some hourly => do
    let hours ← hourlyColumns hourly
    slotLines hours localTime slots

/-! ## The days to come -/

/-- The part of a line for the temperatures of a day: both, or only the highest. -/
def temperaturePart (r : Row) : Except Fault (List String) :=
  match r.high, r.low with
  | some high, some low => do return ["🌡️ " ++ (← tenths low) ++ "–" ++ (← tenths high) ++ "°C"]
  | some high, none => do return ["🌡️ max " ++ (← tenths high) ++ "°C"]
  | none, _ => .ok []

/-- The weekday of a date; `Day` if it is none. -/
def weekdayText (date : String) : String :=
  match parseDay? date.toList with
  | some days => weekdayName (weekday days)
  | none => "Day"

def dayLine (date : String) (r : Row) : Except Fault String := do
  let parts := (← temperaturePart r) ++ (← part percent "☔ " "" r.chance) ++ (← rainPart r.rain)
  return "• " ++ weekdayText date ++ " " ++ date ++ " " ++ r.description ++ "  " ++ joinParts parts

def dailyLines (forecast : List Char) : Except Fault (List String) :=
  match Field.object? forecast "daily".toList with
  | none => .ok []
  | some daily => do
    let days ← dailyColumns daily
    days.times.zipIdx.mapM fun (date, i) => dayLine date (days.row i)

/-! ## The whole report -/

def forecastDays : Nat := 10

/-- The report of a forecast for a place, at an instant of universal time in seconds. -/
def report (place : Place) (forecast : List Char) (seconds : Int) : Except Fault String := do
  let localTime ← (Zone.ofName (place.zone.getD "")).localSeconds seconds
  let current ← currentLine forecast
  let later ← laterLines forecast localTime
  let daily ← dailyLines forecast
  let lines := ["🌤️ *Weather for " ++ place.name ++ "*"] ++ current.toList
    ++ (if later.isEmpty then [] else ["", "🕒 *Later today*"] ++ later)
    ++ ["", "📅 *" ++ toString forecastDays ++ "-day forecast*"] ++ daily
    ++ ["", "_Source: Open-Meteo — https://open-meteo.com_"]
  return "\n".intercalate lines

end Sidekick.Weather
