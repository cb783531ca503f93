/-!
# Addresses

Conversations and participants are known by addresses: a name, a number, or none at all.
-/

namespace Sidekick

inductive Address where
  | nobody
  | name (s : String)
  | number (n : Int)
  deriving DecidableEq

def Address.text : Address → String
  | nobody => "None"
  | name s => s
  | number n => toString n

end Sidekick
