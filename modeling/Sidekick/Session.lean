import Sidekick.Router

/-!
# Sessions

A session is a series of steps on one world. Each step is reported with its result or its fault,
with what it recorded, and with the number of timers that wait after it.
-/

namespace Sidekick

inductive Step where
  | register (word : String) (c : Command)
  | setTransport (t : Option Transport)
  /-- Timers are announced by the transport of now, or by none. -/
  | setAnnouncer (on : Bool)
  | receive (m : Message)
  | command (c : Command) (args : String) (conversation : Address)
  | schedule (c : Countdown) (conversation : Address) (start : Option Float)
  | fire (now : Option Float)
  | runChecker (looks : Nat)
  | killChecker
  | setClock (clock : Float)
  | setResponses (responses : List Response)
  | setPick (pick : Nat)
  | announce (conversation : Address) (text : String)
  | send (conversation : Address) (text : String)
  | listTimers

inductive Result where
  | nothing
  | reply (text : String)
  | count (n : Nat)
  | clock (x : Float)
  | timers (ts : List Timer)

def withTransport (act : Transport → Act Unit) : Act Result := do
  match (← get).transport with
  | none => return .nothing
  | some t => do
    act t
    return .nothing

namespace Step

def run : Step → Act Result
  | register word c => do
    Router.register word c
    return .nothing
  | setTransport t => do
    modify fun w => { w with transport := t }
    return .nothing
  | setAnnouncer on => do
    modify fun w => { w with announcer := if on then w.transport else none }
    return .nothing
  | receive m => do
    match ← Router.route m with
    | none => return .nothing
    | some text => return .reply text
  | command c args conversation => do return .reply (← c.reply args conversation)
  | schedule c conversation start => do
    return .count (← Checker.schedule (start.getD (← get).clock) c conversation)
  | fire now => do return .count (← Checker.fireAt (now.getD (← get).clock))
  | runChecker looks => do
    Checker.run looks
    return .clock (← get).clock
  | killChecker => do
    modify fun w => { w with checker := false }
    return .nothing
  | setClock clock => do
    modify fun w => { w with clock := clock }
    return .nothing
  | setResponses responses => do
    modify fun w => { w with responses := responses }
    return .nothing
  | setPick pick => do
    modify fun w => { w with pick := pick }
    return .nothing
  | announce conversation text => withTransport (·.announce conversation text)
  | send conversation text => withTransport (·.send conversation text)
  | listTimers => do return .timers (← get).store.timers

end Step

def runSteps (w : World) : List Step → List (Outcome Result)
  | [] => []
  | s :: steps =>
    let outcome := s.run.report w
    outcome :: runSteps outcome.world steps

end Sidekick
