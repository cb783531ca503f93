import Std.Time.DateTime.Timestamp
import Sidekick.Console

/-!
# The program

The program runs the command line by the wall clock. It has no network of its own, so every request
finds it offline.
-/

namespace Sidekick.Program

def wallClock : IO Float := do
  let now ← Std.Time.Timestamp.now
  return Number.nearestQuotient now.toNanosecondsSinceUnixEpoch.toInt (Number.tenPow 9)

def appendLog (entry : String) : IO Unit := do
  unless entry.isEmpty do
    try IO.FS.withFile "appy.log" .append (·.putStr entry)
    catch _ => pure ()

/-- Runs an action at the time of now, writes what it printed and logged, and returns its result
with the world after it. A fault ends the program. -/
def perform {α : Type} (act : Act α) (w : World) : IO (α × World) := do
  let outcome := act.report { w with clock := ← wallClock }
  IO.print outcome.world.printed
  (← IO.getStdout).flush
  appendLog outcome.world.log
  match outcome.result with
  | .ok x => return (x, outcome.world)
  | .error fault => throw (IO.userError fault.message)

partial def waitTimers (w : World) : IO Unit := do
  unless w.store.timers.isEmpty do
    IO.sleep 500
    let (_, w) ← perform Checker.fire w
    waitTimers w

def run : List String → IO Unit
  | "-say" :: first :: rest => do
    let text := " ".intercalate (first :: rest)
    let (addressed, w) ← perform (Console.answer text) World.initial
    if addressed then waitTimers w
  | args => do
    let _ ← perform (Console.run args none) World.initial

end Sidekick.Program

def main (args : List String) : IO Unit := Sidekick.Program.run args
