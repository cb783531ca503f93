import Sidekick.Calendar.Stamp
import Sidekick.Text.Percent
import Sidekick.Web
import Sidekick.Weather.Report

/-!
# Asking for the weather

A city is looked up by name, and then the forecast is fetched for its place. Each request that fails
is told of on the console and answered with an apology.
-/

namespace Sidekick.Weather
open Text

def placeUrl (name : String) : String :=
  "https://geocoding-api.open-meteo.com/v1/search?" ++
    query [("name", name), ("count", "1"), ("language", "en"), ("format", "json")]

def forecastUrl (place : Place) : String :=
  "https://api.open-meteo.com/v1/forecast?" ++ query [
    ("latitude", Number.text place.latitude),
    ("longitude", Number.text place.longitude),
    ("current", "temperature_2m,apparent_temperature,precipitation,weather_code,wind_speed_10m,"
      ++ "wind_gusts_10m,wind_direction_10m,relative_humidity_2m"),
    ("hourly", "temperature_2m,precipitation_probability,precipitation,weather_code,"
      ++ "wind_speed_10m,relative_humidity_2m"),
    ("daily", "weather_code,temperature_2m_max,temperature_2m_min,precipitation_sum,"
      ++ "precipitation_probability_max,wind_speed_10m_max,sunrise,sunset"),
    ("wind_speed_unit", "ms"),
    ("forecast_days", toString forecastDays),
    ("timezone", match place.zone with
      | none | some "" => "auto"
      | some zone => zone)]

/-- The result of an action, or nothing after telling of its failure. -/
def orTell {α : Type} (label : String) (act : Act α) : Act (Option α) :=
  tryCatch (some <$> act) fun fault => do
    say ("  [weather] " ++ label ++ " failed: " ++ fault.message)
    return none

def locate (name : String) : Act (Option Place) := do
  match ← orTell ("geocoding " ++ quote name) (Web.fetch (placeUrl name) [Web.agent]) with
  | none => return none
  | some answer => ofExcept (Place.parse? answer.toList name)

def reportNow (place : Place) : Act String := do
  let forecast ← Web.fetch (forecastUrl place) [Web.agent]
  let seconds ← ofExcept (Calendar.wholeSeconds (← get).clock)
  ofExcept (report place forecast.toList seconds)

def usage : String := "🌤️ Usage: `@Appy weather <city>`\nExample: `@Appy weather Berlin`"

def reply (args : String) : Act String := do
  let name := String.ofList (trim args.toList)
  if name.isEmpty then return usage
  match ← locate name with
  | none =>
    return "🌤️ I couldn’t fetch weather for “" ++ name ++ "”. Try a larger city name "
      ++ "(e.g., `Berlin`, `Munich`, `Hamburg`)."
  | some place =>
    match ← orTell ("forecast for " ++ place.name) (reportNow place) with
    | none => return "🌤️ Couldn’t fetch forecast for " ++ place.name ++ "."
    | some text => return text

end Sidekick.Weather
