import Sidekick.Proofs.Number.Halves
import Sidekick.Proofs.Timer.History

namespace Sidekick
open Number

def lookClocks (clock : Float) : Nat → List Float
  | 0 => []
  | n + 1 => (clock + Checker.period) :: lookClocks (clock + Checker.period) n

def clockAfter (clock : Float) : Nat → Float
  | 0 => clock
  | n + 1 => clockAfter (clock + Checker.period) n

theorem clockAfter_add (clock : Float) (j k : Nat) :
    clockAfter clock (j + k) = clockAfter (clockAfter clock j) k := by
  induction j generalizing clock with
  | zero => rw [Nat.zero_add, clockAfter]
  | succ j ih => rw [Nat.add_right_comm, clockAfter, ih, clockAfter]

def looks (clock : Float) (n : Nat) : List TimerCall := (lookClocks clock n).map .fire

theorem length_looks (clock : Float) (n : Nat) : (looks clock n).length = n := by
  unfold looks
  induction n generalizing clock with
  | zero => rfl
  | succ n ih => exact congrArg (· + 1) (ih _)

theorem run_act_clock (call : TimerCall) (w : World) (clock : Float) :
    (call.act.run { w with clock := clock }).2 = { (call.act.run w).2 with clock := clock } := by
  cases call with
  | schedule start c conversation => rw [TimerCall.act, run_schedule, run_schedule]
  | fire now =>
      rw [TimerCall.act, run_fireAt, run_fireAt]
      exact foldl_announced_of_clock _ { w with store := _ } clock

theorem worldAfter_clock (calls : List TimerCall) (w : World) (clock : Float) :
    worldAfter { w with clock := clock } calls = { worldAfter w calls with clock := clock } := by
  induction calls generalizing w with
  | nil => rfl
  | cons call calls ih => rw [worldAfter_cons, worldAfter_cons, run_act_clock, ih]

theorem run_pass (seconds : Float) (w : World) :
    (Checker.pass seconds).run w = (.ok (), { w with clock := w.clock + seconds }) := rfl

theorem run_fire (w : World) : Checker.fire.run w = (Checker.fireAt w.clock).run w := by
  rw [Checker.fire, Act.run_bind, Act.run_get]

theorem run_fireAt_ok (now : Float) (w : World) : ∃ count,
    (Checker.fireAt now).run w = (.ok count, ((TimerCall.fire now).act.run w).2) :=
  ⟨_, by rw [TimerCall.act, run_fireAt]⟩

theorem run_look (n : Nat) (w : World) : (Checker.look n).run w =
    (.ok (), { worldAfter w (looks w.clock n) with clock := clockAfter w.clock n }) := by
  induction n generalizing w with
  | zero => rfl
  | succ n ih =>
      rw [looks, lookClocks, clockAfter, List.map_cons, worldAfter_cons, ← looks]
      rw [Checker.look, Act.run_bind, run_pass]
      generalize w.clock + Checker.period = clock
      obtain ⟨count, fired⟩ := run_fireAt_ok clock { w with clock := clock }
      simp only [Act.run_bind, run_fire, fired, run_act_clock, ih, worldAfter_clock]

theorem run_checker (n : Nat) (w : World) : (Checker.run n).run w = (.ok (),
    if w.checker then
      { worldAfter w (looks w.clock n) with clock := clockAfter w.clock n }
    else { w with clock := w.clock + n.toFloat * Checker.period }) := by
  rw [Checker.run, Act.run_bind, Act.run_get]
  cases alive : w.checker with
  | true => simp only [alive, if_true, run_look]
  | false => simp only [alive, Bool.false_eq_true, if_false, run_pass]

theorem isHalves_period : IsHalves Checker.period 1 := isHalves_half

theorem isDue_add_period {clock : Float} {t : Timer} (h : Store.isDue clock t) :
    Store.isDue (clock + Checker.period) t := by
  have due : t.due ≤ clock := of_decide_eq_true h
  obtain ⟨v, w, hv, hw, le⟩ := float_le_iff.mp due
  exact decide_eq_true (float_le_trans due (float_le_add hw isHalves_period (Int.natCast_nonneg _)))

theorem isDue_clockAfter {clock : Float} {t : Timer} (h : Store.isDue clock t) (n : Nat) :
    Store.isDue (clockAfter clock n) t := by
  induction n generalizing clock with
  | zero => exact h
  | succ n ih => exact ih (isDue_add_period h)

theorem any_drops_looks (clock : Float) (n : Nat) (t : Timer) :
    (looks clock n).any (·.drops t) = (decide (0 < n) && Store.isDue (clockAfter clock n) t) := by
  induction n generalizing clock with
  | zero => rfl
  | succ n ih =>
      rw [looks, lookClocks, List.map_cons, List.any_cons, ← looks, ih, TimerCall.drops, clockAfter]
      generalize clock + Checker.period = next
      cases due : Store.isDue next t with
      | true => simp [isDue_clockAfter due n]
      | false =>
          cases n with
          | zero => simp [clockAfter, due]
          | succ n => simp

theorem scheduled_looks (next : Nat) (clock : Float) (n : Nat) :
    scheduled next (looks clock n) = [] := by
  induction n generalizing clock with
  | zero => rfl
  | succ n ih => exact ih _

theorem next_looks (w : World) (clock : Float) (n : Nat) :
    (worldAfter w (looks clock n)).store.next = w.store.next := by
  induction n generalizing clock w with
  | zero => rfl
  | succ n ih =>
      rw [looks, lookClocks, List.map_cons, worldAfter_cons, ← looks, ih, store_fire]

theorem store_looks (w : World) (clock : Float) (n : Nat) :
    (worldAfter w (looks clock n)).store = ⟨w.store.timers.filter fun t =>
      !(decide (0 < n) && Store.isDue (clockAfter clock n) t), w.store.next⟩ := by
  have timers := timers_worldAfter (looks clock n) w
  rw [pending, scheduled_looks] at timers
  simp only [any_drops_looks, List.filter_nil, List.map_nil, List.append_nil] at timers
  rw [← timers, ← next_looks w clock n]

-- The timers fired by looks are those due at the last look, and none is fired twice.
theorem firings_looks (w : World) (clock : Float) (n : Nat) :
    ((firings w (looks clock n)).map (·.timer)).Perm (w.store.timers.filter fun t =>
      decide (0 < n) && Store.isDue (clockAfter clock n) t) := by
  have accounted := fired_or_waiting (looks clock n) w
  rw [scheduled_looks, List.map_nil, List.append_nil, store_looks] at accounted
  have parted := List.filter_append_perm
    (fun t => decide (0 < n) && Store.isDue (clockAfter clock n) t) w.store.timers
  exact (List.perm_append_right_iff _).mp (accounted.trans parted.symm)

theorem first_of_mem_firings {clock : Float} {n : Nat} {w : World} {f : Firing}
    (h : f ∈ firings w (looks clock n)) : f.timer ∈ w.store.timers ∧
      ∃ earlier later, lookClocks clock n = earlier ++ f.now :: later ∧ f.timer.due ≤ f.now ∧
        ∀ c ∈ earlier, ¬ f.timer.due ≤ c := by
  induction n generalizing clock w with
  | zero => cases h
  | succ n ih =>
      rw [looks, lookClocks, List.map_cons, ← looks] at h
      rw [lookClocks]
      generalize clock + Checker.period = next at h
      cases List.mem_append.mp h with
      | inl first =>
          obtain ⟨t, ht, rfl⟩ := List.mem_map.mp first
          obtain ⟨waiting, due⟩ := List.mem_filter.mp ht
          exact ⟨waiting, [], lookClocks next n, rfl, of_decide_eq_true due, by simp⟩
      | inr later =>
          obtain ⟨waiting, earlier, rest, clocks, due, notYet⟩ := ih later
          rw [store_fire] at waiting
          obtain ⟨waiting, notDue⟩ := List.mem_filter.mp waiting
          have notNow : ¬ f.timer.due ≤ next := by simpa [Store.isDue] using notDue
          exact ⟨waiting, next :: earlier, rest, congrArg (next :: ·) clocks, due,
            List.forall_mem_cons.mpr ⟨notNow, notYet⟩⟩

end Sidekick
