import Sidekick.Text.Blank
import Sidekick.Text.Letter
import Sidekick.Text.LowerCase

/-!
# Mentions

A message is addressed to the bot if its first word is an at sign and the name of the bot. Whatever
else is glued to the name, and its case, does not count. The next word is the command, and the rest
its arguments.
-/

namespace Sidekick
open Text

def botName : String := "appy"

/-- A request to the bot; a bare mention has no command. -/
structure Request where
  command : String
  args : String
  deriving DecidableEq

namespace Request

/-- The letters of the name behind an at sign, in small letters. -/
def mentioned (name : List Char) : List Char := (lower name).filter isLetter

def ofTail (s : List Char) : Request :=
  ⟨String.ofList (word s), String.ofList (trim (afterWord s))⟩

/-- The request that a text makes to the bot `bot`, if it is addressed to it. -/
def parse? (bot : String) (text : String) : Option Request :=
  match trim text.toList with
  | '@' :: s => if mentioned (word s) = bot.toList then some (ofTail (trim (afterWord s))) else none
  | _ => none

end Request

end Sidekick
