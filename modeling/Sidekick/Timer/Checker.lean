import Sidekick.Delivery

/-!
# Timers at work

Timers are fired by a checker that looks at the clock twice a second. It is started by the first
timer, and again by the next one if it died.
-/

namespace Sidekick

namespace Timer

/-- Announces the end of a timer. A fault of the transport is told of and keeps no other timer from
being announced. -/
def announce (t : Timer) : Act Unit := do
  match (← get).announcer with
  | none => pure ()
  | some transport =>
    tryCatch (transport.announce t.conversation t.done) fun fault =>
      say ("  [timer] announce failed: " ++ fault.message)

end Timer

namespace Checker

/-- Drops and announces the timers due at `now`, and counts them. -/
def fireAt (now : Float) : Act Nat := do
  let (due, store) := (← get).store.expire now
  modify fun w => { w with store := store }
  due.forM Timer.announce
  return due.length

def fire : Act Nat := do fireAt (← get).clock

/-- Starts the checker unless it is alive. -/
def start : Act Unit := do
  unless (← get).checker do
    modify fun w => { w with checker := true }
    record .checkerStarted

/-- The seconds from one look at the clock to the next. -/
def period : Float := 0.5

def pass (seconds : Float) : Act Unit := modify fun w => { w with clock := w.clock + seconds }

/-- The checker waits once and fires, `n` times. -/
def look : Nat → Act Unit
  | 0 => pure ()
  | n + 1 => do
    pass period
    let _ ← fire
    look n

/-- Time passes for `n` looks of the checker, whether it is alive or not. -/
def run (n : Nat) : Act Unit := do
  if (← get).checker then look n else pass (n.toFloat * period)

def schedule (start : Float) (c : Countdown) (conversation : Address) : Act Nat := do
  let (result, store) := (← get).store.schedule start c conversation
  modify fun w => { w with store := store }
  ofExcept result

end Checker

def timerUsage : String :=
  "⏱️ Usage: `@Appy timer 30s [optional label]`\n"
    ++ "Examples: `@Appy timer 1 min tea break`, `@Appy timer 2 days report`"

def startTimer (args : String) (conversation : Address) : Act String := do
  match ← ofExcept (Duration.parse args.toList) with
  | none => return timerUsage
  | some c =>
    Checker.start
    let _ ← Checker.schedule (← get).clock c conversation
    return "⏳ Timer started for " ++ c.describe ++ "."

end Sidekick
