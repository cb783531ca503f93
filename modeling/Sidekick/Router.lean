import Sidekick.Calendar.Stamp
import Sidekick.Command
import Sidekick.Help
import Sidekick.Mention
import Sidekick.Text.Quoted

/-!
# Routing messages

A message addressed to the bot goes to the command that its first word names. A bare mention opens a
conversation with the author of the message it replies to, or shows the help. Every message leaves
an entry in the log before it is answered.
-/

namespace Sidekick

def World.stamp (w : World) : Except Fault String := Calendar.stamp w.looksBack w.clock

namespace Router

def register (word : String) (c : Command) : Act Unit :=
  modify fun w => { w with commands := (word, c) :: w.commands.filter (·.1 != word) }

def requestLine : Option Request → String
  | none => "  -> ignored"
  | some r => "  -> command=" ++ Text.quote r.command ++ ", args=" ++ Text.quote r.args

def entry (stamp : String) (m : Message) (r : Option Request) : String :=
  stamp ++ " " ++ m.source ++ "  " ++ m.text ++ "\n" ++ requestLine r ++ "\n"

def greeting : String := "👋 I created this conversation so you two can chat here."

def introduce (transport : Transport) (participant : Address) : Act String := do
  let opened ← tryCatch (some <$> transport.create participant) fun
    | .notOpened reason => do
      say ("  [router] no direct conversation with " ++ participant.text ++ ": " ++ reason)
      return none
    | fault => throw fault
  match opened with
  | none => return "⚠️ I couldn’t create a new conversation in this environment."
  | some conversation =>
    transport.knock conversation
    transport.send conversation greeting
    return "✅ Created a new conversation with that person. Check your chat list."

def answerMention (m : Message) : Act String := do
  match (← get).transport with
  | none => return Help.text
  | some transport =>
    if m.replyTo = .nobody ∨ m.replyTo = transport.self then return Help.text
    else introduce transport m.replyTo

def unknownCommand : String :=
  "🤨 I don’t recognize that command, but I do recognize great taste in bots.\n\n" ++ Help.text

def answer (m : Message) (r : Request) : Act String := do
  let word := String.ofList (Text.lower r.command.toList)
  if word.isEmpty then answerMention m
  else match (← get).commands.lookup word with
    | none => return unknownCommand
    | some c => c.reply r.args m.conversation

/-- Logs a message and answers it, if it is addressed to the bot. -/
def route (m : Message) : Act (Option String) := do
  let request := Request.parse? botName m.text
  let stamp ← ofExcept ((← get).stamp)
  note (entry stamp m request)
  match request with
  | none => return none
  | some r => return some (← answer m r)

end Router

end Sidekick
