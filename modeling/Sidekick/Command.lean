import Sidekick.Calculator.Display
import Sidekick.Help
import Sidekick.Joke
import Sidekick.Timer.Checker
import Sidekick.Weather.Service

/-!
# Commands

Each command has a word and a reply to its arguments.
-/

namespace Sidekick

namespace Command

def all : List (String × Command) :=
  [("help", help), ("calc", calculate), ("echo", echo), ("joke", joke), ("weather", weather),
    ("timer", timer)]

def ofWord? (word : String) : Option Command := all.lookup word

def echoReply (args : String) : String :=
  match Text.trim args.toList with
  | [] => "🦜 Nothing to echo!"
  | s => "🦜 " ++ String.ofList s

def reply (c : Command) (args : String) (conversation : Address) : Act String :=
  match c with
  | help => pure Help.text
  | calculate => pure (Calculator.reply args)
  | echo => pure (echoReply args)
  | joke => Joke.reply
  | weather => Weather.reply args
  | timer => startTimer args conversation
  | canned text => pure (text ++ "|" ++ args ++ "|" ++ conversation.text)

end Command

end Sidekick
