import Sidekick.Address
import Sidekick.Duration
import Sidekick.Number.Nearest

/-!
# Waiting timers

The store holds the timers that wait, in the order they were scheduled, each with the instant it is
due.
-/

namespace Sidekick

structure Timer where
  id : Nat
  /-- The instant it is due, in seconds. -/
  due : Float
  conversation : Address
  countdown : Countdown

/-- The timers that wait, and the number of the next one. -/
structure Store where
  timers : List Timer
  next : Nat

namespace Store

def empty : Store := ⟨[], 1⟩

/-- The seconds of a delay: the number nearest to the quotient, if that is finite. -/
def seconds? (millis : Int) : Option Float :=
  let x := Number.nearestQuotient millis 1000
  match Number.value x with
  | .finite _ => some x
  | _ => none

/-- Adds a timer that starts at `start`. The number is used up even if the delay is too long. -/
def schedule (store : Store) (start : Float) (c : Countdown) (conversation : Address) :
    Except Fault Nat × Store :=
  match seconds? c.millis with
  | some delay =>
    (.ok store.next,
      ⟨store.timers ++ [⟨store.next, start + delay, conversation, c⟩], store.next + 1⟩)
  | none => (.error .delayTooLong, ⟨store.timers, store.next + 1⟩)

def isDue (now : Float) (t : Timer) : Bool := t.due ≤ now

def expire (store : Store) (now : Float) : List Timer × Store :=
  let (due, waiting) := store.timers.partition (isDue now)
  (due, ⟨waiting, store.next⟩)

theorem due_expire (store : Store) (now : Float) :
    (store.expire now).1 = store.timers.filter (isDue now) := by
  simp [expire, List.partition_eq_filter_filter]

theorem timers_expire (store : Store) (now : Float) :
    (store.expire now).2.timers = store.timers.filter (!isDue now ·) := by
  simp [expire, List.partition_eq_filter_filter, Function.comp_def]

end Store

def Timer.done (t : Timer) : String := "⏰ Timer done: " ++ t.countdown.describe ++ "!"

end Sidekick
