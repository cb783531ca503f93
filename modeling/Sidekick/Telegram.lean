import Sidekick.Router

/-!
# The messaging service

The service hands over messages one by one. Each is answered by a reply to it, and what goes wrong
with one message keeps no other from being answered.
-/

namespace Sidekick.Telegram

structure User where
  id : Address
  firstName : Option String
  username : Option String
  deriving DecidableEq

/-- A message of the service: its text, its author, the author of the message it replies to, and
what goes wrong with a reply to it, with the reason as it is told. -/
structure Incoming where
  text : Option String
  chat : Address
  author : Option User
  replyTo : Option User
  replyTrouble : Option (Trouble × String)
  deriving DecidableEq

/-- What the service has in store for a run: `threadTrouble` is what keeps its thread from starting,
and an update may come without a message. -/
structure Service where
  token : String
  bot : Bot
  updates : List (Option Incoming)
  threadTrouble : Option String

/-- The name a user is logged by: the first one that is not empty. -/
def User.name (u : User) : String :=
  let given := u.firstName.filter (!·.isEmpty)
  (given <|> u.username.filter (!·.isEmpty)).getD "unknown"

def Incoming.toMessage (m : Incoming) (text : String) : Message where
  text := text
  conversation := m.chat
  replyTo := (m.replyTo.map User.id).getD .nobody
  source := "[Telegram:" ++ (m.author.map User.name).getD "unknown" ++ "]"

/-- Replies to a message. A refused reply is told of and is no fault. -/
def Incoming.reply (m : Incoming) (text : String) : Act Unit := do
  record (.replied text)
  match m.replyTrouble with
  | none => pure ()
  | some (.refused, reason) => say ("  Reply failed: " ++ reason)
  | some (kind, reason) => throw (.service kind reason)

def Incoming.handle (m : Incoming) (text : String) : Act Unit := do
  let message := m.toMessage text
  say ("  " ++ message.source ++ " \"" ++ text ++ "\"")
  match ← Router.route message with
  | none => pure ()
  | some reply =>
    say ("  Response: \"" ++ reply ++ "\"")
    m.reply reply

/-- Handles an update. Without a message, or with an empty text, nothing is done. -/
def handleUpdate : Option Incoming → Act Unit
  | none => pure ()
  | some m =>
    match m.text with
    | none | some "" => pure ()
    | some text => tryCatch (m.handle text) fun fault => record (.handlerFailed fault)

/-- Starts the service, if there is one: `ready` is told the transport before messages come. -/
def start (service : Option Service) (ready : Transport → Act Unit) : Act Bool := do
  match service with
  | none =>
    say "No telegram_credentials.py — Telegram disabled."
    return false
  | some s =>
    match s.threadTrouble with
    | some reason => throw (.service .broken reason)
    | none =>
      record (.tokenUsed s.token)
      record .initialized
      ready (.bot s.bot)
      record (.pollingStarted true)
      record .started
      say ("Telegram bot started as @" ++ s.bot.username ++ ".")
      s.updates.forM handleUpdate
      return true

end Sidekick.Telegram
