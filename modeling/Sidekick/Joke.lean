import Sidekick.Field.Lookup
import Sidekick.Web

/-!
# Jokes

A joke comes from the first provider that has one, and from a list if none has.
-/

namespace Sidekick.Joke

structure Provider where
  name : String
  url : String
  source : String

def providers : List Provider :=
  [⟨"JokeAPI", "https://v2.jokeapi.dev/joke/Programming?type=single&safe-mode",
      "JokeAPI — https://v2.jokeapi.dev"⟩,
    ⟨"icanhazdadjoke", "https://icanhazdadjoke.com/",
      "icanhazdadjoke — https://icanhazdadjoke.com"⟩]

def offline : List String :=
  ["🤣 There are 10 types of people: those who understand binary and those who don’t.",
    "😅 Why do Java developers wear glasses? Because they can’t C#!",
    "🧠 Debugging: Removing the needles from the haystack.",
    "🤖 I told my computer I needed a break, and it froze!",
    "😂 I would tell you a UDP joke, but you might not get it."]

/-- The answer of a provider, or nothing after telling of its failure. -/
def ask (p : Provider) : Act (Option String) :=
  tryCatch (some <$> Web.fetch p.url [("Accept", "application/json"), Web.agent]) fun fault => do
    say ("  [joke] " ++ p.name ++ " failed: " ++ fault.message)
    return none

/-- The joke in an answer, if it has one that is not empty. -/
def parse? (answer : List Char) : Except Fault (Option String) := do
  match ← Field.string? answer "joke".toList with
  | none | some [] => return none
  | some joke => return some (String.ofList joke)

def online : List Provider → Act (Option String)
  | [] => pure none
  | p :: rest => do
    match ← ask p with
    | none => online rest
    | some answer =>
      match ← ofExcept (parse? answer.toList) with
      | none => online rest
      | some joke => return some ("😂 " ++ joke ++ "\n\n_Source: " ++ p.source ++ "_")

/-- The reply to a request for a joke. The jokes of the list are counted around it. -/
def reply : Act String := do
  match ← online providers with
  | some joke => return joke
  | none => return offline.getD ((← get).pick % offline.length) ""

end Sidekick.Joke
