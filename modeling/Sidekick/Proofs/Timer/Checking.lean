import Sidekick.Proofs.Timer.Polling
import Sidekick.Session

namespace Sidekick

inductive TimerStep where
  | handle (args : String) (conversation : Address)
  | poll (looks : Nat)
  | die

namespace TimerStep

def step : TimerStep → Step
  | handle args conversation => .command .timer args conversation
  | poll n => .runChecker n
  | die => .killChecker

def after (s : TimerStep) (w : World) : World := (s.step.run.run w).2

end TimerStep

def stepped (w : World) (steps : List TimerStep) : World := steps.foldl (fun w s => s.after w) w

/-! ## Asking for timers -/

def watched (w : World) : World :=
  if w.checker then w
  else { w with checker := true, events := w.events ++ [.checkerStarted] }

theorem run_start (w : World) : Checker.start.run w = (.ok (), watched w) := by
  rw [Checker.start, Act.run_bind, Act.run_get, watched]
  cases alive : w.checker <;> simp only [alive] <;> rfl

theorem watched_store (w : World) : (watched w).store = w.store := by
  unfold watched
  split <;> rfl

theorem watched_clock (w : World) : (watched w).clock = w.clock := by
  unfold watched
  split <;> rfl

theorem watched_announcer (w : World) : (watched w).announcer = w.announcer := by
  unfold watched
  split <;> rfl

theorem watched_checker (w : World) : (watched w).checker = true := by
  unfold watched
  split <;> simp [*]

theorem watched_starts (w : World) :
    (watched w).starts = w.starts + if w.checker then 0 else 1 := by
  unfold watched
  split
  · rfl
  · simp [World.starts]

def Countdown.acknowledgement (c : Countdown) : String :=
  "⏳ Timer started for " ++ c.describe ++ "."

theorem run_startTimer (args : String) (conversation : Address) (w : World) :
    (startTimer args conversation).run w =
      match Duration.parse args.toList with
      | .error fault => (.error fault, w)
      | .ok none => (.ok timerUsage, w)
      | .ok (some c) =>
        let (result, store) := w.store.schedule w.clock c conversation
        (result.map fun _ => c.acknowledgement, { watched w with store := store }) := by
  rw [startTimer, Act.run_bind, Act.run_ofExcept]
  cases Duration.parse args.toList with
  | error fault => rfl
  | ok asked =>
      cases asked with
      | none => rfl
      | some c =>
          simp only [Act.run_bind, run_start, Act.run_get, run_schedule, watched_store,
            watched_clock]
          cases w.store.schedule w.clock c conversation with
          | mk result store => cases result <;> rfl

def asksForTimer (args : String) : Bool :=
  match Duration.parse args.toList with
  | .ok (some _) => true
  | _ => false

theorem asksForTimer_of_acknowledged {args reply : String} {conversation : Address} {w : World}
    (ok : ((startTimer args conversation).run w).1 = .ok reply) (other : reply ≠ timerUsage) :
    asksForTimer args = true := by
  rw [run_startTimer] at ok
  unfold asksForTimer
  split at ok
  · cases ok
  · cases ok
    exact absurd rfl other
  · next parsed => rw [parsed]

/-! ## Steps -/

theorem after_handle (args : String) (conversation : Address) (w : World) :
    (TimerStep.handle args conversation).after w = ((startTimer args conversation).run w).2 := by
  rw [TimerStep.after, TimerStep.step, Step.run, Act.run_bind, Command.reply]
  cases (startTimer args conversation).run w with
  | mk result after => cases result <;> rfl

theorem handle_cases (args : String) (conversation : Address) (w : World) :
    (asksForTimer args = false ∧ (TimerStep.handle args conversation).after w = w) ∨
      ∃ c, asksForTimer args = true ∧ (TimerStep.handle args conversation).after w =
        { watched w with store := (w.store.schedule w.clock c conversation).2 } := by
  rw [after_handle, run_startTimer, asksForTimer]
  cases Duration.parse args.toList with
  | error fault => exact .inl ⟨rfl, rfl⟩
  | ok asked =>
      cases asked with
      | none => exact .inl ⟨rfl, rfl⟩
      | some c => exact .inr ⟨c, rfl, rfl⟩

theorem after_poll (n : Nat) (w : World) :
    (TimerStep.poll n).after w = ((Checker.run n).run w).2 := by
  rw [TimerStep.after, TimerStep.step, Step.run, Act.run_bind, run_checker]
  rfl

theorem after_die (w : World) : TimerStep.die.after w = { w with checker := false } := rfl

/-! ### Checkers -/

theorem starts_worldAfter (w : World) (calls : List TimerCall) :
    (worldAfter w calls).starts = w.starts := by
  rw [worldAfter_eq]
  exact foldl_announced_kept announced_starts _ w

theorem checker_worldAfter (w : World) (calls : List TimerCall) :
    (worldAfter w calls).checker = w.checker := by
  rw [worldAfter_eq, foldl_announced_self]
  rfl

theorem announcer_worldAfter (w : World) (calls : List TimerCall) :
    (worldAfter w calls).announcer = w.announcer := by
  rw [worldAfter_eq]
  exact foldl_announced_kept announced_announcer _ w

def TimerStep.starts (w : World) : TimerStep → Bool
  | handle args _ => asksForTimer args && !w.checker
  | poll _ | die => false

def TimerStep.kills (w : World) : TimerStep → Bool
  | die => w.checker
  | handle .. | poll _ => false

theorem starts_after (s : TimerStep) (w : World) :
    (s.after w).starts = w.starts + (s.starts w).toNat := by
  cases s with
  | handle args conversation =>
      rw [TimerStep.starts]
      obtain ⟨asks, after⟩ | ⟨c, asks, after⟩ := handle_cases args conversation w
      · rw [after, asks]
        rfl
      · rw [after, asks]
        refine (watched_starts w).trans ?_
        cases w.checker <;> rfl
  | poll n =>
      rw [after_poll, run_checker]
      split
      · exact starts_worldAfter w _
      · rfl
  | die => rfl

theorem checker_after (s : TimerStep) (w : World) :
    (s.after w).checker = ((w.checker || s.starts w) && !s.kills w) := by
  cases s with
  | handle args conversation =>
      rw [TimerStep.starts, TimerStep.kills]
      obtain ⟨asks, after⟩ | ⟨c, asks, after⟩ := handle_cases args conversation w
      · rw [after, asks]
        simp
      · rw [after, asks]
        refine (watched_checker w).trans ?_
        cases w.checker <;> rfl
  | poll n =>
      rw [after_poll, run_checker, TimerStep.starts, TimerStep.kills]
      split
      · refine (checker_worldAfter w _).trans ?_
        simp
      · simp
  | die => simp [after_die, TimerStep.starts, TimerStep.kills]

theorem announcer_after (s : TimerStep) (w : World) : (s.after w).announcer = w.announcer := by
  cases s with
  | handle args conversation =>
      obtain ⟨-, after⟩ | ⟨c, -, after⟩ := handle_cases args conversation w
      · rw [after]
      · rw [after]
        exact watched_announcer w
  | poll n =>
      rw [after_poll, run_checker]
      split
      · exact announcer_worldAfter w _
      · rfl
  | die => rfl

def deaths (w : World) : List TimerStep → Nat
  | [] => 0
  | s :: steps => (s.kills w).toNat + deaths (s.after w) steps

theorem starts_stepped (steps : List TimerStep) (w : World) :
    (stepped w steps).starts + w.checker.toNat =
      w.starts + deaths w steps + (stepped w steps).checker.toNat := by
  induction steps generalizing w with
  | nil => rfl
  | cons s steps ih =>
      have rest := ih (s.after w)
      have step : (s.starts w).toNat + w.checker.toNat =
          (s.kills w).toNat + (s.after w).checker.toNat := by
        rw [checker_after]
        cases s with
        | handle args conversation =>
            cases asks : asksForTimer args <;> cases alive : w.checker <;>
              simp [TimerStep.starts, TimerStep.kills, asks, alive]
        | poll n => simp [TimerStep.starts, TimerStep.kills]
        | die => simp [TimerStep.starts, TimerStep.kills]
      rw [starts_after] at rest
      rw [stepped, List.foldl_cons, ← stepped, deaths]
      omega

theorem checker_stepped {steps : List TimerStep} (lives : .die ∉ steps) {w : World}
    (alive : w.checker = true) : (stepped w steps).checker = true := by
  induction steps generalizing w with
  | nil => exact alive
  | cons s steps ih =>
      refine ih (List.not_mem_of_not_mem_cons lives) ?_
      rw [checker_after, alive]
      cases s with
      | die => exact absurd rfl (List.ne_of_not_mem_cons lives)
      | _ => rfl

theorem announcer_stepped (steps : List TimerStep) (w : World) :
    (stepped w steps).announcer = w.announcer := by
  induction steps generalizing w with
  | nil => rfl
  | cons s steps ih => exact (ih _).trans (announcer_after s w)

/-! ### Numbers -/

structure Store.Numbered (s : Store) : Prop where
  ascending : (s.timers.map (·.id)).Pairwise (· < ·)
  below : ∀ t ∈ s.timers, t.id < s.next

theorem Store.Numbered.filter {s : Store} (h : s.Numbered) (p : Timer → Bool) :
    Store.Numbered ⟨s.timers.filter p, s.next⟩ where
  ascending := h.ascending.sublist (List.filter_sublist.map _)
  below t ht := h.below t (List.mem_filter.mp ht).1

theorem Store.Numbered.schedule {s : Store} (h : s.Numbered) (start : Float) (c : Countdown)
    (conversation : Address) : (s.schedule start c conversation).2.Numbered := by
  unfold Store.schedule
  split
  · next delay _ =>
      refine ⟨?_, fun t ht => ?_⟩
      · rw [List.map_append, List.map_singleton, List.pairwise_append]
        refine ⟨h.ascending, List.pairwise_singleton .., ?_⟩
        intro id hid last hlast
        obtain ⟨t, ht, rfl⟩ := List.mem_map.mp hid
        rw [List.mem_singleton.mp hlast]
        exact h.below t ht
      · rcases List.mem_append.mp ht with waiting | last
        · exact Nat.lt_succ_of_lt (h.below t waiting)
        · rw [List.mem_singleton.mp last]
          exact Nat.lt_succ_self _
  · exact ⟨h.ascending, fun t ht => Nat.lt_succ_of_lt (h.below t ht)⟩

theorem numbered_worldAfter {w : World} (h : w.store.Numbered) (calls : List TimerCall) :
    (worldAfter w calls).store.Numbered := by
  induction calls generalizing w with
  | nil => exact h
  | cons call calls ih =>
      refine ih ?_
      cases call with
      | schedule start c conversation =>
          rw [store_schedule]
          exact h.schedule start c conversation
      | fire now =>
          rw [store_fire]
          exact h.filter _

theorem numbered_after {w : World} (h : w.store.Numbered) (s : TimerStep) :
    (s.after w).store.Numbered := by
  cases s with
  | handle args conversation =>
      obtain ⟨-, after⟩ | ⟨c, -, after⟩ := handle_cases args conversation w
      · rwa [after]
      · rw [after]
        exact h.schedule _ c conversation
  | poll n =>
      rw [after_poll, run_checker]
      split
      · exact numbered_worldAfter h _
      · exact h
  | die => exact h

theorem numbered_stepped {w : World} (h : w.store.Numbered) (steps : List TimerStep) :
    (stepped w steps).store.Numbered := by
  induction steps generalizing w with
  | nil => exact h
  | cons s steps ih => exact ih (numbered_after h s)

/-! ## Whole runs -/

structure Announces (transport : Transport) (before : World) (n : Nat) (after : World)
    (fired : List Firing) : Prop where
  /-- The timers due by the clock of the last look are announced once each, and no others. -/
  due : (fired.map (·.timer)).Perm (before.store.timers.filter fun t =>
    decide (0 < n) && Store.isDue after.clock t)
  /-- Each is announced at the first look whose clock is not before its end. -/
  first : ∀ f ∈ fired, ∃ earlier later,
    lookClocks before.clock n = earlier ++ f.now :: later ∧ f.timer.due ≤ f.now ∧
      ∀ clock ∈ earlier, ¬ f.timer.due ≤ clock
  announced : after = { (fired.map (·.timer)).foldl
      (fun w t => told ((transport.announce t.conversation t.done).run w)) before with
    clock := clockAfter before.clock n
    store := ⟨before.store.timers.filter fun t => !(decide (0 < n) && Store.isDue after.clock t),
      before.store.next⟩ }

structure CheckerKept (transport : Transport) (start : World) (steps : List TimerStep)
    (after : World) : Prop where
  /-- A checker is started by the calls that get past the duration while none is alive. -/
  started : ∀ s : TimerStep, (s.after after).starts = after.starts + (s.starts after).toNat
  living : ∀ s : TimerStep,
    (s.after after).checker = ((after.checker || s.starts after) && !s.kills after)
  /-- Of the checkers started, those that did not die are one at most. -/
  oneAlive : after.starts = start.starts + deaths start steps + after.checker.toNat
  looking : after.checker = true → ∀ n, (looks after.clock n).length = n ∧
    (Checker.run n).run after = (.ok (), { worldAfter after (looks after.clock n) with
      clock := clockAfter after.clock n })
  notLooking : after.checker = false → ∀ n, (Checker.run n).run after =
    (.ok (), { after with clock := after.clock + n.toFloat * Checker.period })
  distinct : (after.store.timers.map (·.id)).Nodup
  /-- Once a timer was acknowledged and as long as the checker lives, no timer is stranded. -/
  announcing : ∀ earlier args conversation later reply,
    steps = earlier ++ .handle args conversation :: later → .die ∉ later →
    ((startTimer args conversation).run (stepped start earlier)).1 = .ok reply →
    reply ≠ timerUsage → ∀ n, Announces transport after n ((TimerStep.poll n).after after)
      (firings after (looks after.clock n))

theorem foldl_announced_some {transport : Transport} (ts : List Timer) {w : World}
    (h : w.announcer = some transport) : ts.foldl announced w =
      ts.foldl (fun w t => told ((transport.announce t.conversation t.done).run w)) w := by
  induction ts generalizing w with
  | nil => rfl
  | cons t ts ih =>
      rw [List.foldl_cons, List.foldl_cons, ih ((announced_announcer w t).trans h),
        announced_some h]

theorem announces_poll {w : World} {transport : Transport} (alive : w.checker = true)
    (callback : w.announcer = some transport) (n : Nat) :
    Announces transport w n ((TimerStep.poll n).after w) (firings w (looks w.clock n)) := by
  have after : (TimerStep.poll n).after w =
      { worldAfter w (looks w.clock n) with clock := clockAfter w.clock n } := by
    rw [after_poll, run_checker, if_pos alive]
  have clock : ((TimerStep.poll n).after w).clock = clockAfter w.clock n := congrArg World.clock after
  refine ⟨?_, fun f hf => (first_of_mem_firings hf).2, ?_⟩
  · rw [clock]
    exact firings_looks w w.clock n
  · rw [clock, after, worldAfter_eq, store_looks, foldl_announced_some _ callback]

theorem checkerKept_of_run {transport : Transport} {w : World} (empty : w.store = .empty)
    (asleep : w.checker = false) (callback : w.announcer = some transport)
    (steps : List TimerStep) : CheckerKept transport w steps (stepped w steps) := by
  have numbered : w.store.Numbered := by
    rw [empty]
    exact ⟨.nil, fun t ht => nomatch ht⟩
  have announcer := (announcer_stepped steps w).trans callback
  refine ⟨fun s => starts_after s _, fun s => checker_after s _, ?_,
    fun alive n => ⟨length_looks _ n, ?_⟩, fun dead n => ?_, ?_, ?_⟩
  · have balance := starts_stepped steps w
    rwa [asleep] at balance
  · rw [run_checker, if_pos alive]
  · rw [run_checker, if_neg (by rw [dead]; exact Bool.false_ne_true)]
  · exact (numbered_stepped numbered steps).ascending.imp Nat.ne_of_lt
  · rintro earlier args conversation later reply rfl lives acknowledged other n
    refine announces_poll ?_ announcer n
    rw [stepped, List.foldl_append, List.foldl_cons, ← stepped, ← stepped]
    refine checker_stepped lives ?_
    have asks := asksForTimer_of_acknowledged acknowledged other
    rw [checker_after, TimerStep.starts, TimerStep.kills, asks]
    simp

theorem checkerKept_death :
    let transport := Transport.recorder {
      self := .nobody
      delivers := fun _ _ => true
      opens := fun _ _ => true }
    let w := { World.initial with announcer := some transport }
    let steps : List TimerStep := [.handle "1s" (.name "a"), .poll 1, .die, .poll 4,
      .handle "1s tea" (.name "b"), .handle "soon" (.name "c"), .poll 2]
    w.store = .empty ∧ w.checker = false ∧ w.announcer = some transport ∧
      CheckerKept transport w steps (stepped w steps) ∧
      (stepped w steps).events = [.checkerStarted, .checkerStarted,
        .knocked (.name "a"), .texted (.name "a") "⏰ Timer done: 1 second!",
        .knocked (.name "b"), .texted (.name "b") "⏰ Timer done: 1 second — tea!"] :=
  ⟨rfl, rfl, rfl, checkerKept_of_run rfl rfl rfl _, by decide +kernel⟩

end Sidekick
