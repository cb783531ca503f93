import Sidekick.Calculator.Display
import Sidekick.Duration
import Sidekick.Field.Lookup
import Sidekick.Mention
import Sidekick.World

/-!
# Samples

Four parts of the bot can show themselves at work on a few fixed inputs, a line for each.
-/

namespace Sidekick.Samples
open Text Number

def padEnd (width : Nat) (s : String) : String :=
  s ++ String.ofList (List.replicate (width - s.length) ' ')

def line (width : Nat) (input outcome : String) : String :=
  "  " ++ padEnd width (quote input) ++ " => " ++ outcome

def orNone {α : Type} (show? : α → String) : Option α → String
  | none => "None"
  | some x => show? x

def listText (elements : List String) : String := "[" ++ ", ".intercalate elements ++ "]"

def orMessage {α : Type} (show? : α → String) : Except Fault α → String
  | .ok x => show? x
  | .error fault => fault.message

/-! ## Mentions -/

def requestText (r : Request) : String :=
  "ParsedCommand(command=" ++ quote r.command ++ ", args=" ++ quote r.args ++ ")"

def mentions : List String :=
  ["@Appy", "@Appy help", "@Appy🤣 joke", "@ApPy🤪   calc  (2+3*4)/5 ", "@Appy timer 1 min tea break",
    "hello @Appy", "@Bob calc 1+1"].map fun s =>
      line 40 s (orNone requestText (Request.parse? botName s))

/-! ## Calculations -/

def calculations : List String :=
  ["2+3*4", "(2+3*4)/5", "-5.5 + 3", "10 − 2 × 3", "1/0", "2*(-3)", "(1+2", "1+2)", "2 ^ 3",
    "+5"].map fun s =>
      line 20 s (match Calculator.evaluate s.toList with
        | .ok x => Calculator.display x
        | .error fault => "error: " ++ fault.message)

/-! ## Durations -/

def countdownText (c : Countdown) : String :=
  "TimerSpec(millis=" ++ toString c.millis ++ ", human=" ++ quote c.words
    ++ ", label=" ++ quote c.label ++ ")"

def durations : List String :=
  ["30s", "1 min", "1 min tea break", "20 hrs", "2 days report", "1 week", "5 months", "90 SECONDS",
    "banana", "10 lightyears", ""].map fun s =>
      line 22 s (orMessage (orNone countdownText) (Duration.parse s.toList))

/-! ## Fields -/

def document : List Char :=
  ("\x7b\"latitude\":52.52,\"current\":\x7b\"temperature_2m\":-3.5,\"nested\":\x7b\"a\":1\x7d\x7d,"
    ++ "\"hourly\":\x7b\"time\":[\"2025-11-11T00:00\",\"2025-11-11T01:00\"],"
    ++ "\"weather_code\":[3,61,null]\x7d,"
    ++ "\"results\":[\x7b\"name\":\"Berlin\",\"timezone\":\"Europe/Berlin\"\x7d],"
    ++ "\"joke\":\"Tab\\tand \\\"quote\\\" \\u00e9\"\x7d").toList

def lookups : List String :=
  let hourly := (Field.object? document "hourly".toList).getD []
  let quoteAll (elements : List (List Char)) :=
    listText (elements.map fun s => String.ofList (quoteChars s))
  ["latitude      " ++ orNone text (Field.number? document "latitude".toList),
    "current       " ++ orNone String.ofList (Field.object? document "current".toList),
    "results[0]    " ++ orNone String.ofList (Field.firstObject? document "results".toList),
    "hourly.time   " ++ orMessage (orNone quoteAll) (Field.strings? hourly "time".toList),
    "weather_code  " ++ orMessage (orNone fun ns => listText (ns.map toString))
      (Field.integers? document "weather_code".toList),
    "joke          " ++ orMessage (orNone String.ofList) (Field.string? document "joke".toList),
    "missing       " ++ orMessage (orNone String.ofList) (Field.string? document "missing".toList)]

def print (lines : List String) : Act Unit := lines.forM say

end Sidekick.Samples
