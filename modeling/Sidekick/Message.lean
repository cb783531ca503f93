import Sidekick.Address

/-!
# Messages
-/

namespace Sidekick

/-- A message as it reaches the router. `replyTo` is the author of the message it replies to, and
`source` names its sender in the log. Texts are sequences of Unicode scalar values: a lone surrogate,
which cannot be written to the log, is in none of them. -/
structure Message where
  text : String
  conversation : Address
  replyTo : Address
  source : String
  deriving DecidableEq

/-- A text without a conversation, as typed on the console. -/
def Message.ofText (text : String) : Message := ⟨text, .nobody, .nobody, "[console]"⟩

end Sidekick
