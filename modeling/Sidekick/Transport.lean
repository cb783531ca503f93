import Sidekick.Fault

/-!
# Transports

A transport carries messages to one kind of chat. What its far end does with each call is part of
its value, so that a run is determined by its transports. Calls are numbered, and the far end may do
something else each time.
-/

namespace Sidekick

structure Recorder where
  self : Address
  delivers : Nat → Address → Bool
  opens : Nat → Address → Bool
  /-- The address of the conversation that it opens. -/
  opened : Nat → Address → Address := fun _ participant => .name ("dm-" ++ participant.text)

structure Bot where
  self : Address
  username : String
  /-- What goes wrong with a text to a chat, and the reason as it is told. -/
  sendTrouble : Nat → Address → Option (Trouble × String)
  /-- What goes wrong when the chat with a participant is looked for. -/
  chatTrouble : Nat → Address → Option (Trouble × String)
  /-- The chat that is found with a participant. -/
  chat : Nat → Address → Address := fun _ participant => participant

inductive Transport where
  | silent
  | console
  | recorder (r : Recorder)
  | bot (b : Bot)

def Transport.self : Transport → Address
  | silent | console => .nobody
  | recorder r => r.self
  | bot b => b.self

end Sidekick
