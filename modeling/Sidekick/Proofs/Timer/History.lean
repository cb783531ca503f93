import Sidekick.Proofs.Timer.Announcing

namespace Sidekick

inductive TimerCall where
  | schedule (start : Float) (c : Countdown) (conversation : Address)
  | fire (now : Float)

namespace TimerCall

def act : TimerCall → Act Nat
  | schedule start c conversation => Checker.schedule start c conversation
  | fire now => Checker.fireAt now

def drops (t : Timer) : TimerCall → Bool
  | schedule .. => false
  | fire now => Store.isDue now t

end TimerCall

/-! ## What calls do -/

structure Firing where
  timer : Timer
  now : Float

def worldAfter (w : World) (calls : List TimerCall) : World :=
  calls.foldl (fun w call => (call.act.run w).2) w

def timerNumbers (w : World) : List TimerCall → List Nat
  | [] => []
  | .fire now :: calls => timerNumbers ((TimerCall.fire now).act.run w).2 calls
  | .schedule start c conversation :: calls =>
    match (TimerCall.schedule start c conversation).act.run w with
    | (.ok id, after) => id :: timerNumbers after calls
    | (.error _, after) => timerNumbers after calls

/-- The timers that the calls take away, one after another. -/
def firings (w : World) : List TimerCall → List Firing
  | [] => []
  | .fire now :: calls =>
    (w.store.timers.filter (Store.isDue now)).map (⟨·, now⟩)
      ++ firings ((TimerCall.fire now).act.run w).2 calls
  | .schedule start c conversation :: calls =>
    firings ((TimerCall.schedule start c conversation).act.run w).2 calls

/-! ## What calls should do -/

/-- The timers that the calls ask for, numbered from `next` on, each with the calls after it. A
number is used up even if the delay is too long. -/
def scheduled (next : Nat) : List TimerCall → List (Timer × List TimerCall)
  | [] => []
  | .schedule start c conversation :: calls =>
    match Store.seconds? c.millis with
    | some delay => (⟨next, start + delay, conversation, c⟩, calls) :: scheduled (next + 1) calls
    | none => scheduled (next + 1) calls
  | .fire _ :: calls => scheduled next calls

/-- The timers that no later call drops, in the order they were asked for. -/
def pending (next : Nat) (calls : List TimerCall) : List Timer :=
  ((scheduled next calls).filter fun (t, later) => !later.any (·.drops t)).map (·.1)

/-! ## One call -/

theorem worldAfter_cons (w : World) (call : TimerCall) (calls : List TimerCall) :
    worldAfter w (call :: calls) = worldAfter (call.act.run w).2 calls := rfl

theorem store_schedule (w : World) (start : Float) (c : Countdown) (conversation : Address) :
    ((TimerCall.schedule start c conversation).act.run w).2.store =
      (w.store.schedule start c conversation).2 := by
  rw [TimerCall.act, run_schedule]

theorem store_fire (w : World) (now : Float) :
    ((TimerCall.fire now).act.run w).2.store =
      ⟨w.store.timers.filter (!Store.isDue now ·), w.store.next⟩ := by
  rw [TimerCall.act, run_fireAt, foldl_announced_store]

theorem timers_firings_fire (w : World) (now : Float) (calls : List TimerCall) :
    (firings w (.fire now :: calls)).map (·.timer) = w.store.timers.filter (Store.isDue now) ++
      (firings ((TimerCall.fire now).act.run w).2 calls).map (·.timer) := by
  rw [firings, List.map_append, List.map_map]
  congr 1
  exact List.map_id _

/-! ## Numbers -/

theorem le_of_mem_scheduled {calls : List TimerCall} {next : Nat} {t : Timer × List TimerCall}
    (h : t ∈ scheduled next calls) : next ≤ t.1.id := by
  induction calls generalizing next with
  | nil => cases h
  | cons call calls ih =>
      cases call with
      | fire now => exact ih h
      | schedule start c conversation =>
          rw [scheduled] at h
          cases delay : Store.seconds? c.millis with
          | none =>
              rw [delay] at h
              exact Nat.le_of_succ_le (ih h)
          | some d =>
              rw [delay] at h
              cases List.mem_cons.mp h with
              | inl first => exact Nat.le_of_eq (congrArg (·.1.id) first).symm
              | inr later => exact Nat.le_of_succ_le (ih later)

theorem pairwise_scheduled (calls : List TimerCall) (next : Nat) :
    ((scheduled next calls).map (·.1.id)).Pairwise (· < ·) := by
  induction calls generalizing next with
  | nil => exact .nil
  | cons call calls ih =>
      cases call with
      | fire now => exact ih next
      | schedule start c conversation =>
          rw [scheduled]
          cases Store.seconds? c.millis with
          | none => exact ih (next + 1)
          | some d =>
              refine .cons ?_ (ih (next + 1))
              intro id hid
              obtain ⟨t, ht, rfl⟩ := List.mem_map.mp hid
              exact le_of_mem_scheduled ht

theorem timerNumbers_eq (calls : List TimerCall) (w : World) :
    timerNumbers w calls = (scheduled w.store.next calls).map (·.1.id) := by
  induction calls generalizing w with
  | nil => rfl
  | cons call calls ih =>
      cases call with
      | fire now => rw [timerNumbers, ih, store_fire, scheduled]
      | schedule start c conversation =>
          rw [timerNumbers, TimerCall.act, run_schedule, Store.schedule, scheduled]
          cases Store.seconds? c.millis with
          | none => exact ih _
          | some d => exact congrArg (w.store.next :: ·) (ih _)

/-! ## The timers that wait -/

theorem timers_worldAfter (calls : List TimerCall) (w : World) :
    (worldAfter w calls).store.timers =
      w.store.timers.filter (fun t => !calls.any (·.drops t)) ++ pending w.store.next calls := by
  induction calls generalizing w with
  | nil =>
      rw [pending, scheduled, List.filter_nil, List.map_nil, List.append_nil]
      exact (List.filter_eq_self.mpr fun _ _ => rfl).symm
  | cons call calls ih =>
      -- The timers that wait before the call are subject to it and to all later ones.
      rw [worldAfter_cons, ih]
      cases call with
      | fire now =>
          rw [store_fire, List.filter_filter]
          simp only [List.any_cons, TimerCall.drops, Bool.not_or, Bool.and_comm]
          rfl
      | schedule start c conversation =>
          rw [store_schedule, Store.schedule, pending, pending, scheduled]
          cases Store.seconds? c.millis with
          | none => rfl
          | some d =>
              rw [List.filter_append, List.append_assoc, List.filter_cons, List.filter_cons]
              split <;> rfl

/-! ## The timers fired -/

theorem fired_or_waiting (calls : List TimerCall) (w : World) :
    ((firings w calls).map (·.timer) ++ (worldAfter w calls).store.timers).Perm
      (w.store.timers ++ (scheduled w.store.next calls).map (·.1)) := by
  induction calls generalizing w with
  | nil => simp [worldAfter, firings, scheduled]
  | cons call calls ih =>
      have rest := ih (call.act.run w).2
      rw [worldAfter_cons]
      cases call with
      | fire now =>
          rw [store_fire] at rest
          -- Those due are the first ones fired; the later calls part the others.
          have parted := List.filter_append_perm (Store.isDue now) w.store.timers
          rw [timers_firings_fire, List.append_assoc, scheduled]
          refine (rest.append_left _).trans ?_
          rw [← List.append_assoc]
          exact parted.append_right _
      | schedule start c conversation =>
          rw [store_schedule, Store.schedule] at rest
          rw [firings, scheduled]
          cases delay : Store.seconds? c.millis with
          | none =>
              rw [delay] at rest
              exact rest
          | some d =>
              rw [delay] at rest
              simpa using rest

theorem nodup_firings (calls : List TimerCall) (w : World) (empty : w.store.timers = []) :
    ((firings w calls).map (·.timer.id)).Nodup := by
  have kept := (fired_or_waiting calls w).map (·.id)
  rw [empty, List.nil_append, List.map_map, List.map_append, List.map_map] at kept
  have distinct := (pairwise_scheduled calls w.store.next).imp fun h => Nat.ne_of_lt h
  exact (List.nodup_append.mp (kept.symm.nodup distinct)).1

theorem due_of_mem_firings {calls : List TimerCall} {w : World} {f : Firing}
    (h : f ∈ firings w calls) : f.timer.due ≤ f.now := by
  induction calls generalizing w with
  | nil => cases h
  | cons call calls ih =>
      cases call with
      | schedule start c conversation => exact ih h
      | fire now =>
          cases List.mem_append.mp h with
          | inr later => exact ih later
          | inl first =>
              obtain ⟨t, ht, rfl⟩ := List.mem_map.mp first
              exact of_decide_eq_true (List.mem_filter.mp ht).2

/-! ## Everything else that happens -/

theorem worldAfter_eq (calls : List TimerCall) (w : World) :
    worldAfter w calls = { ((firings w calls).map (·.timer)).foldl announced w with
      store := (worldAfter w calls).store } := by
  induction calls generalizing w with
  | nil => rfl
  | cons call calls ih =>
      rw [worldAfter_cons]
      refine (ih _).trans ?_
      cases call with
      | fire now =>
          rw [timers_firings_fire, List.foldl_append, TimerCall.act, run_fireAt]
          simp only [foldl_announced_store]
      | schedule start c conversation =>
          rw [firings, TimerCall.act, run_schedule]
          simp only [foldl_announced_store]

/-! ## A recorder as the announcer -/

def Timer.announcement (t : Timer) : List Event :=
  [.knocked t.conversation, .texted t.conversation t.done]

theorem run_send_recorder (r : Recorder) (conversation : Address) (text : String) (w : World) :
    ((Transport.recorder r).send conversation text).run w =
      (if r.delivers w.calls conversation then .ok () else .error (.notSent conversation),
        { w with events := w.events ++ [.texted conversation text], calls := w.calls + 1 }) := by
  rw [Transport.send, Act.run_bind]
  have noted : (call (.texted conversation text)).run w = (.ok w.calls,
      { w with events := w.events ++ [.texted conversation text], calls := w.calls + 1 }) := rfl
  rw [noted]
  cases delivered : r.delivers w.calls conversation with
  | true => simp only [delivered]; rfl
  | false => simp only [delivered]; rfl

theorem run_knock_recorder (r : Recorder) (conversation : Address) (w : World) :
    ((Transport.recorder r).knock conversation).run w =
      (.ok (), { w with events := w.events ++ [.knocked conversation] }) := rfl

theorem events_announce_recorder (r : Recorder) (conversation : Address) (text : String)
    (w : World) : (((Transport.recorder r).announce conversation text).run w).2.events =
      w.events ++ [.knocked conversation, .texted conversation text] := by
  rw [Transport.announce, Act.run_bind, run_knock_recorder]
  simp only [run_send_recorder, List.append_assoc, List.cons_append, List.nil_append]

theorem events_announced {w : World} {r : Recorder} (h : w.announcer = some (.recorder r))
    (t : Timer) : (announced w t).events = w.events ++ t.announcement := by
  rw [announced_some h, told_kept (f := World.events) fun _ _ => rfl, events_announce_recorder,
    Timer.announcement]

theorem events_foldl_of_announced {told : Timer → List Event} {transport : Transport}
    (one : ∀ w t, w.announcer = some transport → (announced w t).events = w.events ++ told t)
    {w : World} (h : w.announcer = some transport) (ts : List Timer) :
    (ts.foldl announced w).events = w.events ++ ts.flatMap told := by
  induction ts generalizing w with
  | nil => simp
  | cons t ts ih =>
      have kept := (announced_announcer w t).trans h
      rw [List.foldl_cons, ih kept, one w t h, List.append_assoc, List.flatMap_cons]

theorem events_foldl_announced {w : World} {r : Recorder}
    (h : w.announcer = some (.recorder r)) (ts : List Timer) :
    (ts.foldl announced w).events = w.events ++ ts.flatMap Timer.announcement :=
  events_foldl_of_announced (fun _ t found => events_announced found t) h ts

/-! ## Whole runs -/

/-- What holds after calls in a world without timers. The parts speak of every moment of a run, for
any number of calls may be followed by one more. -/
structure TimersKept (start : World) (calls : List TimerCall) (after : World) : Prop where
  increasing : (timerNumbers start calls).Pairwise (· < ·)
  numbered : timerNumbers start calls = (scheduled 1 calls).map (·.1.id)
  waiting : after.store.timers = pending 1 calls
  scheduling : ∀ now c conversation, (Checker.schedule now c conversation).run after =
    match Store.seconds? c.millis with
    | some delay => (.ok after.store.next, { after with store :=
        ⟨pending 1 calls ++ [⟨after.store.next, now + delay, conversation, c⟩],
          after.store.next + 1⟩ })
    | none => (.error .delayTooLong, { after with store :=
        ⟨pending 1 calls, after.store.next + 1⟩ })
  firing : ∀ now, (Checker.fireAt now).run after =
    (.ok ((pending 1 calls).filter (Store.isDue now)).length,
      { ((pending 1 calls).filter (Store.isDue now)).foldl announced after with store :=
        ⟨(pending 1 calls).filter (!Store.isDue now ·), after.store.next⟩ })
  once : ((firings start calls).map (·.timer.id)).Nodup
  notBefore : ∀ f ∈ firings start calls, f.timer.due ≤ f.now
  accounted : ((firings start calls).map (·.timer) ++ after.store.timers).Perm
    ((scheduled 1 calls).map (·.1))
  /-- Each timer fired is announced, and nothing else is done. -/
  nothingElse : after =
    { ((firings start calls).map (·.timer)).foldl announced start with store := after.store }
  /-- A recorder is called for each timer fired, whatever texts it refuses. -/
  recorded : ∀ r, start.announcer = some (.recorder r) → after.events =
    start.events ++ ((firings start calls).map (·.timer)).flatMap Timer.announcement

theorem timersKept_of_run {w : World} (empty : w.store = .empty) (calls : List TimerCall) :
    TimersKept w calls (worldAfter w calls) := by
  have numbered := timerNumbers_eq calls w
  have waiting := timers_worldAfter calls w
  have accounted := fired_or_waiting calls w
  have timers : w.store.timers = [] := congrArg Store.timers empty
  have next : w.store.next = 1 := congrArg Store.next empty
  rw [timers, List.filter_nil, List.nil_append] at waiting
  rw [timers, List.nil_append] at accounted
  rw [next] at numbered waiting accounted
  have others := worldAfter_eq calls w
  refine ⟨?_, numbered, waiting, ?_, ?_, nodup_firings calls w timers,
    fun _ => due_of_mem_firings, accounted, others, ?_⟩
  · rw [numbered]
    exact pairwise_scheduled calls 1
  · intro now c conversation
    rw [run_schedule, Store.schedule, waiting]
    cases Store.seconds? c.millis with
    | none => rfl
    | some delay => rfl
  · intro now
    rw [run_fireAt, foldl_announced_store, waiting]
  · intro r found
    rw [others]
    exact events_foldl_announced found _

theorem timersKept_two_seconds :
    let tea : Countdown := ⟨1000, "1 second", ""⟩
    let recorder : Recorder := {
      self := .nobody
      delivers := fun n _ => n != 0
      opens := fun _ _ => true }
    let w := { World.initial with announcer := some (.recorder recorder) }
    let calls : List TimerCall := [.schedule 0 tea (.name "a"), .schedule 1 tea (.name "b"),
      .fire 0.5, .fire 5]
    w.store = .empty ∧ TimersKept w calls (worldAfter w calls) ∧
      timerNumbers w calls = [1, 2] ∧ (worldAfter w calls).events =
        [.knocked (.name "a"), .texted (.name "a") "⏰ Timer done: 1 second!",
          .knocked (.name "b"), .texted (.name "b") "⏰ Timer done: 1 second!"] :=
  ⟨rfl, timersKept_of_run rfl _, by decide +kernel, by decide +kernel⟩

end Sidekick
