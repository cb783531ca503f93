import Sidekick.Router
import Sidekick.Telegram

/-!
# The command line

`-parse` shows how a text is read, `-say` answers a text and waits for the timer it started, and
anything else listens for messages.
-/

namespace Sidekick.Console
open Number

/-- The main program sleeps, while the checker looks at the clock `looks` times. Says whether the
user interrupted instead. -/
def sleep (looks : Nat) : Act Bool := do
  let w ← get
  match w.patience with
  | some patience =>
    if patience ≤ w.sleeps then return true
  | none => pure ()
  modify fun w => { w with sleeps := w.sleeps + 1 }
  Checker.run looks
  return false

/-- Sleeps while timers wait, at most `fuel` times. -/
def waitTimers : Nat → Act Unit
  | 0 => pure ()
  | fuel + 1 => do
    if (← get).store.timers.isEmpty then pure ()
    else if ← sleep 1 then say "\nTimer abandoned."
    else waitTimers fuel

def magnitudeUp (x : Float) : Nat :=
  match value x with
  | .finite b => b.wholePart + 1
  | _ => 0

/-- A number of sleeps that outlasts every timer. A look advances the clock by half a second, less
what rounding takes off, which is no more than half of it. -/
def enoughSleeps (w : World) : Nat :=
  match w.patience with
  | some patience => patience - w.sleeps + 1
  | none => w.store.timers.foldl (fun n t => max n (4 * magnitudeUp (t.due - w.clock) + 4)) 0

def parse (text : String) : Act Unit := do
  say ("> " ++ text)
  match Request.parse? botName text with
  | none => say "module: none"
  | some r =>
    say ("command: " ++ r.command)
    say ("args: " ++ r.args)

def registerAll : Act Unit := Command.all.forM fun (word, c) => Router.register word c

def connect (t : Transport) : Act Unit :=
  modify fun w => { w with transport := some t, announcer := some t }

/-- Answers a text on the console. Says whether it was addressed to the bot. -/
def answer (text : String) : Act Bool := do
  registerAll
  connect .console
  match ← Router.route { Message.ofText text with conversation := .name "console" } with
  | none =>
    say "(not addressed to Appy — ignored)"
    return false
  | some reply =>
    say reply
    return true

def converse (text : String) : Act Unit := do
  if ← answer text then waitTimers (enoughSleeps (← get))

/-- Sleeps a second at a time until the user interrupts, at most `fuel` times. -/
def idle : Nat → Act Unit
  | 0 => pure ()
  | fuel + 1 => do
    if ← sleep 2 then say "\nShutting down."
    else idle fuel

/-- Listens for messages until the user interrupts. Without a service, or if it does not start,
there is nothing to listen to. -/
def listen (service : Option Telegram.Service) : Act Unit := do
  registerAll
  say ("Commands: " ++ ", ".intercalate (Command.all.map (·.1)))
  let started ← tryCatch (Telegram.start service connect) fun fault => do
    say ("Telegram bot failed to start: " ++ fault.message)
    return false
  if started then
    say "Listening... mention @Appy to begin.\n"
    let w ← get
    idle ((w.patience.getD 0) - w.sleeps + 1)
  else say "Nothing to listen to. Try: python -m appy -say \"@Appy help\""

def run (args : List String) (service : Option Telegram.Service) : Act Unit :=
  match args with
  | "-parse" :: first :: rest => parse (" ".intercalate (first :: rest))
  | "-say" :: first :: rest => converse (" ".intercalate (first :: rest))
  | _ => listen service

end Sidekick.Console
