import Sidekick.Proofs.Duration.Matching
import Sidekick.Proofs.Number.Overflow
import Sidekick.Proofs.Session.Numbering

namespace Sidekick
open Duration Text

/-- What keeps a duration with parts `p` from being waited for. -/
inductive Refuses (p : Parts) : Fault → Prop
  | faulty {fault : Fault} (faulty : Faulty p fault) : Refuses p fault
  | delayTooLong {unit : TimeUnit} {c : Countdown} (reads : Reads p unit c)
      (long : Number.overflow * 1000 ≤ decimalValue p.digits * unit.millis) :
      Refuses p .delayTooLong

/-- The reply tells how a timer is asked for, and no timer, number or checker was touched. -/
structure Declined (w : World) (result : Except Fault String) (v : World) : Prop where
  reply : result = .ok timerUsage
  store : v.store = w.store
  checker : v.checker = w.checker

/-- The reply is the acknowledgement of one more timer, which a live checker watches. -/
structure Started (c : Countdown) (conversation : Address) (w : World)
    (result : Except Fault String) (v : World) : Prop where
  reply : result = .ok c.acknowledgement
  added : ∃ delay, Store.seconds? c.millis = some delay ∧
    v.store.timers = w.store.timers ++ [⟨w.store.next, w.clock + delay, conversation, c⟩]
  fresh : ∀ t ∈ w.store.timers, t.id ≠ w.store.next
  used : v.store.next = w.store.next + 1
  checker : v.checker = true

def AllOrNothing (args : String) (conversation : Address) (w : World) : Prop :=
  let (result, v) := (startTimer args conversation).run w
  Declined w result v ∨
    ∃ c, parse args.toList = .ok (some c) ∧ Started c conversation w result v

def World.afterFault (w : World) : Fault → World
  | .delayTooLong => { watched w with store := ⟨w.store.timers, w.store.next + 1⟩ }
  | _ => w

theorem seconds?_eq_none_iff (n : Nat) :
    Store.seconds? n = none ↔ Number.overflow * 1000 ≤ n := by
  rw [← Nat.not_lt, ← Number.value_nearestQuotient_finite_iff (by decide) (by decide +kernel),
    Store.seconds?]
  cases Number.value (Number.nearestQuotient n 1000) <;> simp

variable {args : String} {conversation : Address} {w : World} {p : Parts} {fault : Fault}

theorem run_startTimer_of_refuses (asks : Asks p) (text : trim args.toList = p.text)
    (refuses : Refuses p fault) :
    (startTimer args conversation).run w = (.error fault, w.afterFault fault) := by
  rw [run_startTimer]
  cases refuses with
  | faulty faulty =>
      rw [parse_eq_error_iff.mpr ⟨p, asks, text, faulty⟩]
      cases faulty <;> rfl
  | delayTooLong reads long =>
      have none := (seconds?_eq_none_iff _).mpr long
      rw [Int.natCast_mul, ← reads.millis] at none
      rw [parse_eq_ok_some_iff.mpr ⟨p, _, asks, text, reads⟩]
      simp only [Store.schedule, none]
      rfl

theorem not_allOrNothing_of_error
    (failed : ((startTimer args conversation).run w).1 = .error fault) :
    ¬ AllOrNothing args conversation w := by
  rintro (declined | ⟨c, -, started⟩)
  · cases failed.symm.trans declined.reply
  · cases failed.symm.trans started.reply

theorem allOrNothing_of_not_refuses (numbered : w.store.Numbered)
    (free : ∀ p fault, Asks p → trim args.toList = p.text → ¬ Refuses p fault) :
    AllOrNothing args conversation w := by
  unfold AllOrNothing
  rw [run_startTimer]
  cases parsed : parse args.toList with
  | error fault =>
      obtain ⟨p, asks, text, faulty⟩ := parse_eq_error_iff.mp parsed
      exact absurd (.faulty faulty) (free p fault asks text)
  | ok asked =>
      cases asked with
      | none => exact .inl ⟨rfl, rfl, rfl⟩
      | some c =>
          obtain ⟨p, unit, asks, text, reads⟩ := parse_eq_ok_some_iff.mp parsed
          cases seconds : Store.seconds? c.millis with
          | none =>
              rw [reads.millis, ← Int.natCast_mul, seconds?_eq_none_iff] at seconds
              exact absurd (.delayTooLong reads seconds) (free p _ asks text)
          | some delay =>
              have different (t : Timer) (ht : t ∈ w.store.timers) : t.id ≠ w.store.next :=
                Nat.ne_of_lt (numbered.below t ht)
              simp only [Store.schedule, seconds]
              exact .inr ⟨c, rfl, rfl, ⟨delay, seconds, rfl⟩, different, rfl, watched_checker w⟩

theorem allOrNothing_iff_of_reachable (reachable : Reachable w) (args : String)
    (conversation : Address) :
    (AllOrNothing args conversation w ↔
      ∀ p fault, Asks p → trim args.toList = p.text → ¬ Refuses p fault) ∧
    ∀ p fault, Asks p → trim args.toList = p.text → Refuses p fault →
      (startTimer args conversation).run w = (.error fault, w.afterFault fault) := by
  refine ⟨⟨fun holds p fault asks text refuses => ?_,
    allOrNothing_of_not_refuses (numbered_of_reachable reachable)⟩,
    fun p fault asks text => run_startTimer_of_refuses asks text⟩
  have failed : ((startTimer args conversation).run w).1 = .error fault := by
    rw [run_startTimer_of_refuses asks text refuses]
  exact not_allOrNothing_of_error failed holds

theorem allOrNothing_iff_of_reachable_tooLong :
    let w := ((Step.command .timer "1s" (.name "a")).run.report .initial).world
    let digits := '1' :: List.replicate 320 '0'
    Reachable w ∧ (startTimer (String.ofList (digits ++ ['s'])) (.name "b")).run w =
      (.error .delayTooLong, { watched w with store := ⟨w.store.timers, w.store.next + 1⟩ }) := by
  intro w digits
  have reachable : Reachable w := .step (.start rfl) _
  have asks : Asks ⟨digits, [], ['s'], [], []⟩ := by
    refine ⟨List.cons_ne_nil _ _, List.forall_mem_cons.mpr ⟨by decide +kernel, fun c hc => ?_⟩,
      by simp [Blanks], ⟨"s", by decide, .cons (by decide) .nil⟩, .inl ⟨rfl, rfl⟩⟩
    rw [(List.mem_replicate.mp hc).2]
    decide +kernel
  have reads : Reads ⟨digits, [], ['s'], [], []⟩ .second
      ⟨decimalValue digits * 1000, describe (decimalValue digits) .second, ""⟩ :=
    ⟨by decide +kernel, ⟨"s", by decide, by decide +kernel⟩, rfl, rfl, rfl⟩
  have text : trim (String.ofList (digits ++ ['s'])).toList = digits ++ ['s'] := by
    rw [String.toList_ofList]
    decide +kernel
  refine ⟨reachable, (allOrNothing_iff_of_reachable reachable _ _).2 _ _ asks text ?_⟩
  exact .delayTooLong reads (by decide +kernel)

theorem not_allOrNothing_foreign : ¬ AllOrNothing "1 \u017F" (.name "a") .initial := by
  have parsed : parse "1 \u017F".toList = .error (.unknownUnit "\u017F") := by decide +kernel
  have failed : ((startTimer "1 \u017F" (.name "a")).run .initial).1 =
      .error (.unknownUnit "\u017F") := by
    rw [run_startTimer, parsed]
  exact not_allOrNothing_of_error failed

end Sidekick
