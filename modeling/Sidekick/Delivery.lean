import Sidekick.World

/-!
# Delivering messages

What each transport does to knock, to send a text, to open a conversation, and to announce.
-/

namespace Sidekick

/-- Prints what comes of a call to the messaging service. A refused or late call is told of and is
no fault. -/
def Act.tolerant (label : String) (act : Act Unit) : Act Unit :=
  tryCatch act fun fault =>
    match fault with
    | .service .refused _ | .service .timedOut _ =>
      say ("  " ++ label ++ " failed: " ++ fault.message)
    | _ => throw fault

/-- Records a call to a far end and returns its number. -/
def call (e : Event) : Act Nat := do
  record e
  modifyGet fun w => (w.calls, { w with calls := w.calls + 1 })

def raise : Option (Trouble × String) → Act Unit
  | none => pure ()
  | some (trouble, text) => throw (.service trouble text)

namespace Bot

def post (b : Bot) (chat : Address) (text : String) : Act Unit := do
  let n ← call (.messageSent chat text)
  raise (b.sendTrouble n chat)

def seekChat (b : Bot) (participant : Address) : Act Address := do
  let n ← call (.chatSought participant)
  raise (b.chatTrouble n participant)
  return b.chat n participant

end Bot

namespace Transport

/-- A short ping ahead of a text. -/
def knock (t : Transport) (conversation : Address) : Act Unit :=
  match t with
  | silent => throw .sendingUnsupported
  | console => say ("[" ++ conversation.text ++ "] *knock*")
  | recorder _ => record (.knocked conversation)
  | bot b => (b.post conversation "🔔").tolerant ("Knock to " ++ conversation.text)

def send (t : Transport) (conversation : Address) (text : String) : Act Unit :=
  match t with
  | silent => throw .sendingUnsupported
  | console => say ("[" ++ conversation.text ++ "] " ++ text)
  | recorder r => do
    let n ← call (.texted conversation text)
    unless r.delivers n conversation do throw (.notSent conversation)
  | bot b => (b.post conversation text).tolerant ("Send to " ++ conversation.text)

def create (t : Transport) (participant : Address) : Act Address :=
  match t with
  | silent => throw (.notOpened "Transport can't create conversations")
  | console => throw (.notOpened "ConsoleTransport can't create conversations")
  | recorder r => do
    let n ← call (.creating participant)
    if r.opens n participant then return r.opened n participant
    else throw (.notOpened "nope")
  | bot b =>
    tryCatch (b.seekChat participant) fun fault =>
      match fault with
      | .service .refused _ | .service .timedOut _ => throw (.notOpened fault.message)
      | _ => throw fault

def announce (t : Transport) (conversation : Address) (text : String) : Act Unit := do
  t.knock conversation
  t.send conversation text

end Transport

end Sidekick
