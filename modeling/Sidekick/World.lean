import Sidekick.Message
import Sidekick.Transport
import Sidekick.Timer.Store

/-!
# The world of the bot

All that the bot can change or notice is one value: its commands, transports and timers, the clock,
the answers of the network, and the record of what happened. An action changes the world, and keeps
the change when it fails.
-/

namespace Sidekick

inductive Command where
  | help
  | calculate
  | echo
  | joke
  | weather
  | timer
  /-- It answers with a fixed text, its arguments and the conversation. -/
  | canned (reply : String)
  deriving DecidableEq

structure WebRequest where
  url : String
  headers : List (String × String)
  timeout : Nat
  deriving DecidableEq

inductive Response where
  | body (text : String)
  | bytes (b : List UInt8)
  | failure (reason : String)
  deriving DecidableEq

inductive Event where
  | checkerStarted
  | requested (r : WebRequest)
  | knocked (conversation : Address)
  | texted (conversation : Address) (text : String)
  | creating (participant : Address)
  | tokenUsed (token : String)
  | initialized
  | pollingStarted (dropPending : Bool)
  | started
  | replied (text : String)
  | messageSent (chat : Address) (text : String)
  | chatSought (participant : Address)
  | handlerFailed (fault : Fault)
  deriving DecidableEq

structure World where
  clock : Float
  /-- Does the clock look up the day before, to see whether a local time comes twice? -/
  looksBack : Bool
  store : Store
  /-- Is the checker alive, which fires the timers? -/
  checker : Bool
  /-- The transport that the ends of timers are told by. -/
  announcer : Option Transport
  commands : List (String × Command)
  transport : Option Transport
  calls : Nat
  /-- The answers to the requests to come. -/
  responses : List Response
  /-- The joke told offline. -/
  pick : Nat
  logOpen : Bool
  sleeps : Nat
  /-- The number of sleeps after which the user interrupts. -/
  patience : Option Nat
  events : List Event
  printed : String
  log : String

/-- A change of the world, with a result or a fault. -/
abbrev Act := ExceptT Fault (StateM World)

namespace World

def initial : World where
  clock := 0
  looksBack := true
  store := .empty
  checker := false
  announcer := none
  commands := []
  transport := none
  calls := 0
  responses := []
  pick := 0
  logOpen := true
  sleeps := 0
  patience := none
  events := []
  printed := ""
  log := ""

def unrecorded (w : World) : World := { w with events := [], printed := "", log := "" }

end World

def record (e : Event) : Act Unit := modify fun w => { w with events := w.events ++ [e] }

def say (line : String) : Act Unit := modify fun w => { w with printed := w.printed ++ line ++ "\n" }

def note (entry : String) : Act Unit :=
  modify fun w => if w.logOpen then { w with log := w.log ++ entry } else w

def ofExcept {α : Type} (e : Except Fault α) : Act α := liftExcept e

/-- The report of an action: its result or its fault, and the world after it, whose record is that
of the action alone. -/
structure Outcome (α : Type) where
  result : Except Fault α
  world : World

def Act.report {α : Type} (act : Act α) (w : World) : Outcome α :=
  let (result, w) := act.run w.unrecorded
  ⟨result, w⟩

/-! ## Running actions -/

namespace Act

variable {α β : Type} (act : Act α) (w : World)

theorem run_pure (x : α) : (pure x : Act α).run w = (.ok x, w) := rfl

theorem run_bind (next : α → Act β) : (act >>= next).run w =
    match act.run w with
    | (.ok x, w) => (next x).run w
    | (.error fault, w) => (.error fault, w) := by
  simp only [bind, ExceptT.bind, ExceptT.run, ExceptT.mk, StateT.bind, ExceptT.bindCont]
  rcases act w with ⟨_ | _, _⟩ <;> rfl

theorem run_tryCatch (rescue : Fault → Act α) : (tryCatch act rescue).run w =
    match act.run w with
    | (.ok x, w) => (.ok x, w)
    | (.error fault, w) => (rescue fault).run w := by
  simp only [tryCatch, tryCatchThe, MonadExceptOf.tryCatch, ExceptT.tryCatch, ExceptT.run, ExceptT.mk,
    bind, StateT.bind]
  rcases act w with ⟨_ | _, _⟩ <;> rfl

theorem run_get : (get : Act World).run w = (.ok w, w) := rfl

theorem run_modify (f : World → World) : (modify f : Act Unit).run w = (.ok (), f w) := rfl

theorem run_ofExcept (e : Except Fault α) : (ofExcept e).run w = (e, w) := by
  cases e <;> rfl

end Act

end Sidekick
