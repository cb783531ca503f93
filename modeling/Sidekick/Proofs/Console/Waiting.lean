import Sidekick.Console
import Sidekick.Proofs.Timer.Checking

namespace Sidekick.Console
open Number

structure Waiting (w : World) (t : Timer) (m n : Nat) : Prop where
  timers : w.store.timers = [t]
  checker : w.checker = true
  announcer : w.announcer = some .console
  clock : IsHalves w.clock m
  due : IsHalves t.due n

def slept (w : World) (k : Nat) : World :=
  { w with sleeps := w.sleeps + k, clock := clockAfter w.clock k }

/-- The sleeps until the timer is told of. -/
def naps (m n : Nat) : Nat := max 1 (n - m)

theorem slept_slept (w : World) (j k : Nat) : slept (slept w j) k = slept w (j + k) := by
  rw [slept, slept, slept, clockAfter_add, Nat.add_assoc]

theorem isHalves_clockAfter {clock : Float} {m k : Nat} (h : IsHalves clock m)
    (small : m + k < 2 ^ 53) : IsHalves (clockAfter clock k) (m + k) := by
  induction k generalizing clock m with
  | zero => exact h
  | succ k ih =>
      have next := ih (h.add isHalves_period (by omega)) (by omega)
      rwa [Nat.add_assoc, Nat.add_comm 1 k] at next

theorem announced_console {w : World} (h : w.announcer = some .console) (t : Timer) :
    announced w t = { w with printed := w.printed
      ++ ("[" ++ t.conversation.text ++ "] *knock*") ++ "\n"
      ++ ("[" ++ t.conversation.text ++ "] " ++ t.done) ++ "\n" } := by
  rw [announced_some h]
  rfl

theorem run_sleep_interrupted {w : World} {k : Nat} (patience : w.patience = some k)
    (spent : k ≤ w.sleeps) (looks : Nat) : (sleep looks).run w = (.ok true, w) := by
  rw [sleep, Act.run_bind, Act.run_get]
  simp only [patience, if_pos spent]
  rfl

theorem run_sleep {w : World} (patient : ∀ k, w.patience = some k → w.sleeps < k) (looks : Nat) :
    (sleep looks).run w =
      (.ok false, ((Checker.run looks).run { w with sleeps := w.sleeps + 1 }).2) := by
  have napped (w : World) : (do
      modify fun w => { w with sleeps := w.sleeps + 1 }
      Checker.run looks
      return false : Act Bool).run w =
        (.ok false, ((Checker.run looks).run { w with sleeps := w.sleeps + 1 }).2) := by
    simp only [Act.run_bind, Act.run_modify, run_checker, Act.run_pure]
  rw [← napped w, sleep, Act.run_bind, Act.run_get]
  cases patience : w.patience with
  | none => simp only [patience]
  | some k => simp only [patience, if_neg (Nat.not_le.mpr (patient k patience))]

theorem isDue_clockAfter_iff {w : World} {t : Timer} {m n k : Nat} (h : Waiting w t m n)
    (small : m + k < 2 ^ 53) : Store.isDue (clockAfter w.clock k) t = decide (n ≤ m + k) :=
  decide_eq_decide.mpr (h.due.le_iff (isHalves_clockAfter h.clock small))

theorem run_look_once {w : World} {t : Timer} {m n : Nat} (h : Waiting w t m n)
    (small : m + 1 < 2 ^ 53) : ((Checker.run 1).run w).2 =
      if n ≤ m + 1 then
        announced { w with clock := clockAfter w.clock 1, store := ⟨[], w.store.next⟩ } t
      else { w with clock := clockAfter w.clock 1 } := by
  have look : worldAfter w (looks w.clock 1) =
      ((TimerCall.fire (clockAfter w.clock 1)).act.run w).2 := rfl
  rw [run_checker, if_pos h.checker, look, TimerCall.act, run_fireAt, h.timers]
  have due := isDue_clockAfter_iff h small
  generalize clockAfter w.clock 1 = clock at due
  split
  · next late =>
      rw [decide_eq_true late] at due
      simp only [List.filter_cons, List.filter_nil, due, Bool.not_true, if_true, if_false, Bool.false_eq_true]
      exact (foldl_announced_of_clock [t] { w with store := ⟨[], w.store.next⟩ } clock).symm
  · next early =>
      rw [decide_eq_false early] at due
      simp only [List.filter_cons, List.filter_nil, due, Bool.not_false, if_true, if_false, Bool.false_eq_true,
        List.foldl_nil]
      rw [← h.timers]

theorem Waiting.slept {w : World} {t : Timer} {m n k : Nat} (h : Waiting w t m n)
    (small : m + k < 2 ^ 53) : Waiting (slept w k) t (m + k) n :=
  ⟨h.timers, h.checker, h.announcer, isHalves_clockAfter h.clock small, h.due⟩

theorem run_waitTimers_empty {w : World} (h : w.store.timers = []) (fuel : Nat) :
    (waitTimers fuel).run w = (.ok (), w) := by
  cases fuel with
  | zero => rfl
  | succ fuel =>
      rw [waitTimers, Act.run_bind, Act.run_get]
      simp only [h, List.isEmpty_nil, if_true]
      rfl

theorem run_waitTimers_succ {w : World} {t : Timer} {m n : Nat} (h : Waiting w t m n)
    (patient : ∀ k, w.patience = some k → w.sleeps < k) (fuel : Nat) :
    (waitTimers (fuel + 1)).run w = (waitTimers fuel).run
      ((Checker.run 1).run { w with sleeps := w.sleeps + 1 }).2 := by
  rw [waitTimers, Act.run_bind, Act.run_get]
  simp only [h.timers, List.isEmpty_cons, Bool.false_eq_true, if_false, Act.run_bind,
    run_sleep patient]

theorem run_waitTimers_early {w : World} {t : Timer} {m n k : Nat} (h : Waiting w t m n)
    (early : k < naps m n) (small : n < 2 ^ 53)
    (patient : ∀ p, w.patience = some p → w.sleeps + k ≤ p) (fuel : Nat) :
    (waitTimers (fuel + k)).run w = (waitTimers fuel).run (slept w k) := by
  unfold naps at early
  induction k generalizing w m with
  | zero => rfl
  | succ k ih =>
      have first : m + 1 < n := by omega
      have awake : Waiting { w with sleeps := w.sleeps + 1 } t m n :=
        ⟨h.timers, h.checker, h.announcer, h.clock, h.due⟩
      have quiet : ((Checker.run 1).run { w with sleeps := w.sleeps + 1 }).2 = slept w 1 := by
        rw [run_look_once awake (by omega), if_neg (by omega)]
        rfl
      rw [← Nat.add_assoc, run_waitTimers_succ h fun p hp => by have := patient p hp; omega, quiet,
        Nat.add_comm k 1, ← slept_slept]
      exact ih (h.slept (k := 1) (by omega)) (by omega) fun p hp => by
        have := patient p hp
        show w.sleeps + 1 + k ≤ p
        omega

theorem run_waitTimers {w : World} {t : Timer} {m n fuel : Nat} (h : Waiting w t m n)
    (le : m ≤ n) (small : n + 1 < 2 ^ 53) (enough : naps m n ≤ fuel)
    (patient : ∀ p, w.patience = some p → w.sleeps + naps m n ≤ p) :
    (waitTimers fuel).run w =
      (.ok (), announced { slept w (naps m n) with store := ⟨[], w.store.next⟩ } t) := by
  obtain ⟨k, hk⟩ : ∃ k, naps m n = k + 1 := ⟨naps m n - 1, by unfold naps; omega⟩
  obtain ⟨rest, rfl⟩ : ∃ rest, fuel = rest + 1 + k := ⟨fuel - naps m n, by omega⟩
  have late : m + k ≤ n ∧ n ≤ m + k + 1 := by
    unfold naps at hk
    omega
  have patient' (p : Nat) (hp : w.patience = some p) : w.sleeps + k < p := by
    have := patient p hp
    omega
  have last : Waiting (slept w k) t (m + k) n := h.slept (by omega)
  have awake : Waiting { slept w k with sleeps := (slept w k).sleeps + 1 } t (m + k) n :=
    ⟨last.timers, last.checker, last.announcer, last.clock, last.due⟩
  have full : { slept (slept w k) 1 with store := ⟨[], w.store.next⟩ } =
      { slept w (naps m n) with store := ⟨[], w.store.next⟩ } := by
    rw [slept_slept, hk]
  rw [run_waitTimers_early h (by omega) (by omega) (fun p hp => Nat.le_of_lt (patient' p hp)),
    run_waitTimers_succ last patient', run_look_once awake (by omega), if_pos late.2, ← full]
  refine run_waitTimers_empty ?_ rest
  rw [announced_console (by exact h.announcer)]

theorem run_waitTimers_interrupted {w : World} {t : Timer} {m n fuel p : Nat}
    (h : Waiting w t m n) (small : n < 2 ^ 53) (patience : w.patience = some p)
    (begun : w.sleeps ≤ p) (early : p < w.sleeps + naps m n) (enough : p - w.sleeps < fuel) :
    (waitTimers fuel).run w = (.ok (), { slept w (p - w.sleeps) with
      printed := w.printed ++ "\nTimer abandoned." ++ "\n" }) := by
  obtain ⟨rest, rfl⟩ : ∃ rest, fuel = rest + 1 + (p - w.sleeps) :=
    ⟨fuel - 1 - (p - w.sleeps), by omega⟩
  have patient (q : Nat) (hq : w.patience = some q) : w.sleeps + (p - w.sleeps) ≤ q := by
    obtain rfl : p = q := Option.some.inj (patience.symm.trans hq)
    omega
  have spent : p ≤ (slept w (p - w.sleeps)).sleeps := by
    show p ≤ w.sleeps + (p - w.sleeps)
    omega
  have timers : (slept w (p - w.sleeps)).store.timers = [t] := h.timers
  have stopped : (sleep 1).run (slept w (p - w.sleeps)) = (.ok true, slept w (p - w.sleeps)) :=
    @run_sleep_interrupted (slept w (p - w.sleeps)) p patience spent 1
  rw [run_waitTimers_early h (by omega) small patient, waitTimers, Act.run_bind, Act.run_get]
  simp only [timers, List.isEmpty_cons, Bool.false_eq_true, if_false, Act.run_bind, stopped,
    if_true]
  rfl

end Sidekick.Console
