import Sidekick.Proofs.Session.Moments
import Sidekick.Proofs.Session.Routing
import Sidekick.Proofs.Timer.Polling

namespace Sidekick

namespace Moment

variable (m : Moment)

def events : List Event := m.after.world.events

def fired : List Timer :=
  match m.step with
  | .fire now => m.before.store.timers.filter (Store.isDue (now.getD m.before.clock))
  | .runChecker n =>
    if m.before.checker then (firings m.before (looks m.before.clock n)).map (·.timer) else []
  | _ => []

end Moment

inductive Sends (m : Moment) : Prop
  | nothing (silent : ∀ e ∈ m.events, e.isSent = false)
      (untold : m.fired ≠ [] → ∀ r, m.before.announcer ≠ some (.recorder r))
  | timers (r : Recorder) (told : m.before.announcer = some (.recorder r))
      (events : m.events = m.fired.flatMap Timer.announcement)
      (firing : ∀ message, m.step ≠ .receive message)
  | opening (r : Recorder) (message : Message) (step : m.step = .receive message)
      (carried : m.before.transport = some (.recorder r)) (opens : message.opens)
      (events : m.events = Router.introduction r m.before.calls message.replyTo)
  | announcing (conversation : Address) (text : String)
      (step : m.step = .announce conversation text)
      (events : m.events = [.knocked conversation, .texted conversation text])

/-! ## One step -/

theorem run_step_eq {α : Type} {act : Act α} {next : α → Act Result} {w : World}
    (done : ∀ x v, ((next x).run v).2 = v) : ((act >>= next).run w).2 = (act.run w).2 := by
  rw [Act.run_bind]
  rcases act.run w with ⟨_ | x, v⟩
  · rfl
  · exact done x v

theorem sends_of_quiet {s : Step} {w : World} (unfired : (s.moment w).fired = [])
    (quiet : w.unrecorded.QuietUntil (s.run.run w.unrecorded).2) : Sends (s.moment w) := by
  obtain ⟨es, events, silent⟩ := quiet
  refine .nothing ?_ fun fired => absurd unfired fired
  rw [Moment.events, show (s.moment w).after.world.events = es from events]
  exact silent

theorem quiet_announced {w : World} (other : ∀ r, w.announcer ≠ some (.recorder r)) (t : Timer) :
    w.QuietUntil (announced w t) := by
  obtain found | ⟨transport, found⟩ := Option.eq_none_or_eq_some w.announcer
  · rw [announced_none found]
    exact .of_events rfl
  · have noRecorder (r : Recorder) : transport ≠ .recorder r := by
      rintro rfl
      exact other r found
    have quiet := (inward_announce noRecorder t.conversation t.done).quiet w
    rw [announced_some found]
    exact quiet.trans (.of_events (told_kept (f := World.events) (fun _ _ => rfl) _))

theorem quiet_foldl_announced (ts : List Timer) {w : World}
    (other : ∀ r, w.announcer ≠ some (.recorder r)) : w.QuietUntil (ts.foldl announced w) := by
  induction ts generalizing w with
  | nil => exact .of_events rfl
  | cons t ts ih =>
      have still : ∀ r, (announced w t).announcer ≠ some (.recorder r) := by
        rw [announced_announcer]
        exact other
      exact (quiet_announced other t).trans (ih still)

theorem sends_of_firing {s : Step} {w : World} (firing : ∀ message, s ≠ .receive message)
    (events : (s.moment w).events = ((s.moment w).fired.foldl announced w.unrecorded).events) :
    Sends (s.moment w) := by
  by_cases told : ∃ r, w.unrecorded.announcer = some (.recorder r)
  · obtain ⟨r, told⟩ := told
    refine .timers r told ?_ firing
    rw [events, events_foldl_announced told]
    rfl
  · have other : ∀ r, w.unrecorded.announcer ≠ some (.recorder r) := fun r h => told ⟨r, h⟩
    obtain ⟨es, added, silent⟩ := quiet_foldl_announced (s.moment w).fired other
    refine .nothing ?_ fun _ => other
    rw [events, added]
    exact silent

theorem sends_receive (message : Message) (w : World) :
    Sends (Step.moment (.receive message) w) := by
  have world := world_receive message w.unrecorded
  obtain quiet | ⟨opens, r, carried, events⟩ :=
    Router.quiet_or_introduced_route message w.unrecorded
  · refine sends_of_quiet rfl ?_
    rwa [world]
  · refine .opening r message rfl carried opens ?_
    rw [← world] at events
    exact events

theorem sends_announce (conversation : Address) (text : String) (w : World) :
    Sends (Step.moment (.announce conversation text) w) := by
  have world (t : Transport) (found : w.unrecorded.transport = some t) :
      ((Step.announce conversation text).run.run w.unrecorded).2 =
        ((t.announce conversation text).run w.unrecorded).2 := by
    rw [Step.run, withTransport, Act.run_bind, Act.run_get]
    simp only [found]
    exact run_step_eq fun _ _ => rfl
  cases found : w.unrecorded.transport with
  | none =>
      refine sends_of_quiet rfl (.of_events ?_)
      rw [Step.run, withTransport, Act.run_bind, Act.run_get]
      simp only [found]
      rfl
  | some t =>
      by_cases recorder : ∃ r, t = .recorder r
      · obtain ⟨r, rfl⟩ := recorder
        have events := events_announce_recorder r conversation text w.unrecorded
        rw [← world _ found] at events
        exact .announcing conversation text rfl events
      · refine sends_of_quiet rfl ?_
        rw [world t found]
        exact (inward_announce (fun r h => recorder ⟨r, h⟩) conversation text).quiet w.unrecorded

theorem world_fire (now : Option Float) (w : World) :
    (Step.moment (.fire now) w).after.world =
      ((TimerCall.fire (now.getD w.clock)).act.run w.unrecorded).2 := by
  show ((Step.fire now).run.run w.unrecorded).2 = _
  rw [Step.run, Act.run_bind, Act.run_get]
  exact run_step_eq fun _ _ => rfl

theorem sends_fire (now : Option Float) (w : World) : Sends (Step.moment (.fire now) w) := by
  refine sends_of_firing (fun _ => Step.noConfusion) ?_
  rw [Moment.events, world_fire, TimerCall.act, run_fireAt, foldl_announced_store]
  rfl

theorem runChecker_cases (n : Nat) (w : World) :
    let m := Step.moment (.runChecker n) w
    m.fired = (firings w.unrecorded (looks w.clock n)).map (·.timer) ∧
        m.after.world = { worldAfter w.unrecorded (looks w.clock n) with
          clock := clockAfter w.clock n } ∨
      m.fired = [] ∧ m.after.world = { w.unrecorded with
        clock := w.clock + n.toFloat * Checker.period } := by
  intro m
  have world : m.after.world = ((Checker.run n).run w.unrecorded).2 := by
    show ((Step.runChecker n).run.run w.unrecorded).2 = _
    rw [Step.run]
    exact run_step_eq fun _ _ => rfl
  rw [world, run_checker, Moment.fired]
  cases alive : w.checker with
  | true => exact .inl ⟨if_pos alive, if_pos alive⟩
  | false =>
      have dead : ¬ w.checker = true := by rw [alive]; exact Bool.false_ne_true
      exact .inr ⟨if_neg dead, if_neg dead⟩

theorem sends_runChecker (n : Nat) (w : World) : Sends (Step.moment (.runChecker n) w) := by
  refine sends_of_firing (fun _ => Step.noConfusion) ?_
  obtain ⟨fired, world⟩ | ⟨fired, world⟩ := runChecker_cases n w
  · rw [Moment.events, fired, world, worldAfter_eq]
  · rw [Moment.events, fired, world]
    rfl

theorem sends_step {s : Step} (worded : ∀ conversation text, s ≠ .send conversation text)
    (w : World) : Sends (s.moment w) := by
  cases s with
  | receive m => exact sends_receive m w
  | announce conversation text => exact sends_announce conversation text w
  | fire now => exact sends_fire now w
  | runChecker n => exact sends_runChecker n w
  | send conversation text => exact absurd rfl (worded conversation text)
  | command c args conversation =>
      refine sends_of_quiet rfl ?_
      rw [Step.run, run_step_eq fun _ _ => rfl]
      exact (inward_reply c args conversation).quiet w.unrecorded
  | schedule c conversation start =>
      refine sends_of_quiet rfl ?_
      rw [Step.run, Act.run_bind, Act.run_get, run_step_eq fun _ _ => rfl]
      exact (inward_schedule _ c conversation).quiet w.unrecorded
  -- The others change the world, and ask nothing of a transport.
  | register | setTransport | setAnnouncer | killChecker | setClock | setResponses | setPick
  | listTimers => exact sends_of_quiet rfl (.of_events rfl)

/-! ## Timers -/

def Step.fires : Step → Bool
  | .fire _ | .runChecker _ => true
  | _ => false

theorem perm_fired {s : Step} (fires : s.fires = true) (w : World) :
    ((s.moment w).fired ++ (s.moment w).after.world.store.timers).Perm
      (s.moment w).before.store.timers := by
  cases s with
  | fire now =>
      rw [world_fire, store_fire]
      exact List.filter_append_perm _ _
  | runChecker n =>
      obtain ⟨fired, world⟩ | ⟨fired, world⟩ := runChecker_cases n w
      · have accounted := fired_or_waiting (looks w.clock n) w.unrecorded
        rw [scheduled_looks, List.map_nil, List.append_nil] at accounted
        rw [fired, world]
        exact accounted
      · rw [fired, world]
        exact .refl _
  | _ => cases fires

/-! ## Whole sessions -/

def greeted : Except Fault Address → List Event
  | .ok c => [.knocked c, .texted c Router.greeting]
  | .error _ => []

structure Moment.WellSent (m : Moment) : Prop where
  dropped : m.step.fires = true →
    (m.fired ++ m.after.world.store.timers).Perm m.before.store.timers
  /-- Each text comes right behind a knock to its conversation. This is the one of a timer fired, or
  the one that the step names, or the one opened right before. -/
  paired : ∀ front c text back, m.events = front ++ .texted c text :: back →
    ∃ start, front = start ++ [.knocked c] ∧
      ((∃ t ∈ m.fired, t.conversation = c ∧ t.done = text) ∨ m.step = .announce c text ∨
        ∃ earlier p r, start = earlier ++ [.creating p] ∧
          m.before.transport = some (.recorder r) ∧
            (((Transport.recorder r).create p).run m.before).1 = .ok c)
  /-- Every timer fired is told of once, whatever texts are refused. -/
  told : ∀ r, m.before.announcer = some (.recorder r) → m.fired ≠ [] →
    m.events = m.fired.flatMap fun t => [.knocked t.conversation, .texted t.conversation t.done]
  /-- A conversation that is opened is greeted in once, and one that is not opened is left alone. -/
  created : ∀ front p back, m.events = front ++ .creating p :: back →
    front = [] ∧ ∃ r, m.before.transport = some (.recorder r) ∧
      back = greeted (((Transport.recorder r).create p).run m.before).1
  silent : ∀ message, m.step = .receive message → ¬ message.opens →
    ∀ e ∈ m.events, e.isSent = false

theorem eq_of_knock_text {c c' : Address} {text text' : String} {front back : List Event}
    (h : [.knocked c, .texted c text] = front ++ .texted c' text' :: back) :
    front = [.knocked c] ∧ c = c' ∧ text = text' := by
  obtain _ | ⟨first, _ | ⟨second, front⟩⟩ := front
  · cases h
  · cases h
    exact ⟨rfl, rfl, rfl⟩
  · simp at h

theorem knocked_of_announcements {ts : List Timer} {c : Address} {text : String}
    {front back : List Event}
    (h : ts.flatMap Timer.announcement = front ++ .texted c text :: back) :
    ∃ start, front = start ++ [.knocked c] ∧ ∃ t ∈ ts, t.conversation = c ∧ t.done = text := by
  induction ts generalizing front with
  | nil => simp at h
  | cons t ts ih =>
      rw [List.flatMap_cons, Timer.announcement] at h
      obtain _ | ⟨first, _ | ⟨second, front⟩⟩ := front
      · simp at h
      · simp only [List.cons_append, List.nil_append, List.cons.injEq, Event.texted.injEq] at h
        obtain ⟨rfl, ⟨rfl, rfl⟩, -⟩ := h
        exact ⟨[], rfl, t, List.mem_cons_self, rfl, rfl⟩
      · simp only [List.cons_append, List.nil_append, List.cons.injEq] at h
        obtain ⟨rfl, rfl, rest⟩ := h
        obtain ⟨start, rfl, t', ht', named⟩ := ih rest
        exact ⟨.knocked t.conversation :: .texted t.conversation t.done :: start, rfl, t',
          List.mem_cons_of_mem t ht', named⟩

theorem greeted_eq {result : Except Fault Address} {c : Address} {text : String}
    {front back : List Event} (h : greeted result = front ++ .texted c text :: back) :
    front = [.knocked c] ∧ result = .ok c := by
  cases result with
  | error fault => simp [greeted] at h
  | ok opened =>
      obtain ⟨rfl, rfl, -⟩ := eq_of_knock_text h
      exact ⟨rfl, rfl⟩

theorem greeted_ne {result : Except Fault Address} {p : Address} {front back : List Event} :
    greeted result ≠ front ++ .creating p :: back := by
  intro h
  have created : .creating p ∈ greeted result := by
    rw [h]
    exact List.mem_append_right front List.mem_cons_self
  cases result <;> simp [greeted] at created

theorem introduction_eq (r : Recorder) (p : Address) (w : World) :
    Router.introduction r w.calls p =
      .creating p :: greeted (((Transport.recorder r).create p).run w).1 := by
  rw [Router.introduction, Router.run_create]
  cases r.opens w.calls p with
  | false => rfl
  | true => rfl

theorem wellSent_of_sends {m : Moment} (dropped : m.step.fires = true →
      (m.fired ++ m.after.world.store.timers).Perm m.before.store.timers)
    (h : Sends m) : m.WellSent := by
  have sent {front back : List Event} {e : Event} (events : m.events = front ++ e :: back) :
      e ∈ m.events := by
    rw [events]
    exact List.mem_append_right front List.mem_cons_self
  cases h with
  | nothing silent untold =>
      refine ⟨dropped, ?_, fun r told fired => absurd told (untold fired r), ?_, fun _ _ _ => silent⟩
      · intro front c text back events
        exact Bool.noConfusion (silent _ (sent events))
      · intro front p back events
        exact Bool.noConfusion (silent _ (sent events))
  | timers r told events firing =>
      refine ⟨dropped, ?_, fun _ _ _ => events, ?_, fun message step => absurd step (firing message)⟩
      · intro front c text back parted
        obtain ⟨start, knocked, fired⟩ := knocked_of_announcements (events ▸ parted)
        exact ⟨start, knocked, .inl fired⟩
      · intro front p back parted
        have created := sent parted
        simp [events, Timer.announcement] at created
  | opening r message step carried opens events =>
      have unfired : m.fired = [] := by rw [Moment.fired, step]
      rw [introduction_eq] at events
      refine ⟨dropped, ?_, fun _ _ fired => absurd unfired fired, ?_, ?_⟩
      · intro front c text back parted
        rw [events] at parted
        obtain _ | ⟨first, front⟩ := front
        · cases parted
        · obtain ⟨created, rest⟩ := List.cons.inj parted
          obtain ⟨rfl, opened⟩ := greeted_eq rest
          rw [← created]
          exact ⟨[.creating message.replyTo], rfl,
            .inr (.inr ⟨[], message.replyTo, r, rfl, carried, opened⟩)⟩
      · intro front p back parted
        rw [events] at parted
        obtain _ | ⟨first, front⟩ := front
        · cases parted
          exact ⟨rfl, r, carried, rfl⟩
        · exact absurd (List.cons.inj parted).2 greeted_ne
      · intro message' received closed
        rw [step] at received
        cases received
        exact absurd opens closed
  | announcing conversation text step events =>
      have unfired : m.fired = [] := by rw [Moment.fired, step]
      refine ⟨dropped, ?_, fun _ _ fired => absurd unfired fired, ?_, fun message received => ?_⟩
      · intro front c text' back parted
        obtain ⟨rfl, rfl, rfl⟩ := eq_of_knock_text (events ▸ parted)
        exact ⟨[], rfl, .inr (.inl step)⟩
      · intro front p back parted
        have created := sent parted
        simp [events] at created
      · rw [step] at received
        cases received

theorem wellSent_of_run {w : World} {steps : List Step}
    (worded : ∀ conversation text, .send conversation text ∉ steps) :
    (moments w steps).map (·.after) = runSteps w steps ∧ ∀ m ∈ moments w steps, m.WellSent := by
  refine ⟨map_after_moments steps w, fun m member => ?_⟩
  obtain ⟨step, v, moment⟩ := exists_of_mem_moments member
  rw [moment]
  refine wellSent_of_sends (fun fires => perm_fired fires v)
    (sends_step (fun conversation text sent => ?_) v)
  rw [sent] at step
  exact worded conversation text step

theorem wellSent_of_run_refused :
    let transport := Transport.recorder {
      self := .nobody
      delivers := fun n _ => n ≠ 1 ∧ n ≠ 3
      opens := fun n _ => n = 0 }
    let bare : Message := ⟨"@Appy", .name "a", .name "bob", "[console]"⟩
    let steps : List Step := [.register "timer" .timer, .setTransport (some transport),
      .receive bare, .receive bare, .receive ⟨"@Appy timer 1s", .name "a", .nobody, "[console]"⟩,
      .command .timer "1s tea" (.name "b"), .setAnnouncer true, .setTransport none, .runChecker 2]
    (∀ conversation text, .send conversation text ∉ steps) ∧
      ((moments .initial steps).map (·.after) = runSteps .initial steps ∧
        ∀ m ∈ moments .initial steps, m.WellSent) ∧
      (moments .initial steps).map (·.events) = [[], [], [.creating (.name "bob"),
        .knocked (.name "dm-bob"), .texted (.name "dm-bob") Router.greeting],
        [.creating (.name "bob")], [.checkerStarted], [], [], [],
        [.knocked (.name "a"), .texted (.name "a") "⏰ Timer done: 1 second!",
          .knocked (.name "b"), .texted (.name "b") "⏰ Timer done: 1 second — tea!"]] :=
  ⟨by simp, wellSent_of_run (by simp), by decide +kernel⟩

end Sidekick
