import Sidekick.World

/-!
# Fetching from the web
-/

namespace Sidekick.Web

def agent : String × String := ("User-agent", "appy-bot")

def timeout : Nat := 8

/-- The answer to a request; without one the network is offline. -/
def fetch (url : String) (headers : List (String × String)) : Act String := do
  record (.requested ⟨url, headers, timeout⟩)
  let w ← get
  set { w with responses := w.responses.tail }
  match w.responses.head? with
  | none => throw (.network "offline")
  | some (.failure reason) => throw (.network reason)
  | some (.body text) => return text
  | some (.bytes b) =>
    ofExcept ((Text.Utf8.decode b).map String.ofList |>.mapError .malformed)

end Sidekick.Web
