import Sidekick.Proofs.Calendar.Years
import Sidekick.Proofs.Session.Moments
import Sidekick.Proofs.Session.Routing

namespace Sidekick
open Number Calendar

def Command.IsPure (c : Command) : Prop := c = help ∨ c = calculate ∨ c = echo

instance (c : Command) : Decidable c.IsPure :=
  inferInstanceAs (Decidable (c = .help ∨ c = .calculate ∨ c = .echo))

/-- A message that is not addressed to the bot, or asks for a pure command or for none that is
known. -/
def Message.Idle (m : Message) (w : World) : Prop :=
  ∀ r ∈ Request.parse? botName m.text, r.word ≠ "" ∧ ∀ c ∈ w.commands.lookup r.word, c.IsPure

instance (m : Message) (w : World) : Decidable (m.Idle w) :=
  inferInstanceAs (Decidable (∀ r ∈ Request.parse? botName m.text,
    r.word ≠ "" ∧ ∀ c ∈ w.commands.lookup r.word, c.IsPure))

theorem Command.IsPure.run_reply {c : Command} (h : c.IsPure) (args : String)
    (conversation : Address) (w : World) :
    ∃ text, (c.reply args conversation).run w = (.ok text, w) := by
  obtain rfl | rfl | rfl := h
  · exact ⟨Help.text, rfl⟩
  · exact ⟨Calculator.reply args, rfl⟩
  · exact ⟨echoReply args, rfl⟩

namespace Router

variable {m : Message} {w : World}

theorem run_answer_idle {r : Request} (idle : m.Idle w)
    (request : Request.parse? botName m.text = some r) :
    ∃ text, (answer m r).run w = (.ok text, w) := by
  obtain ⟨named, known⟩ := idle r request
  rw [run_answer_named named]
  cases found : w.commands.lookup r.word with
  | none => exact ⟨unknownCommand, rfl⟩
  | some c => exact (known c found).run_reply r.args m.conversation w

theorem run_route_idle {stamp : String} (idle : m.Idle w)
    (stamped : w.stamp = .ok stamp) : ∃ answer,
      (route m).run w = (.ok answer, w.noted (entry stamp m (Request.parse? botName m.text))) ∧
        (answer = none ↔ Request.parse? botName m.text = none) := by
  rw [run_route, stamped]
  cases request : Request.parse? botName m.text with
  | none => exact ⟨none, rfl, by simp⟩
  | some r =>
      have still : m.Idle (w.noted (entry stamp m (some r))) := idle
      obtain ⟨text, answered⟩ := run_answer_idle still request
      exact ⟨some text, by simp only [answered, Except.map], by simp⟩

end Router

structure Moment.Passing (m : Moment) (message : Message) : Prop where
  /-- It is only logged, and it has no reply if it is not addressed to the bot. -/
  logged : ∀ seconds, floor m.before.clock = .ok seconds →
    IsStampable m.before.looksBack seconds → ∃ result, m.after = ⟨.ok result, { m.before with
        log := if m.before.logOpen then
          Router.entry (stampText seconds) message (Request.parse? botName message.text)
        else "" }⟩ ∧
      (result = .nothing ↔ Request.parse? botName message.text = none)
  /-- Without a stamp it fails without a trace. -/
  unlogged : (∀ seconds, floor m.before.clock = .ok seconds →
      ¬ IsStampable m.before.looksBack seconds) → ∃ fault, m.after = ⟨.error fault, m.before⟩

theorem report_receive (message : Message) (w : World) : (Step.receive message).run.report w =
    ⟨((Router.route message).run w.unrecorded).1.map
        (fun answer => answer.elim .nothing Result.reply),
      ((Router.route message).run w.unrecorded).2⟩ := by
  rw [Act.report, run_receive]

theorem passing_of_idle {message : Message} {w : World} (idle : message.Idle w) :
    ((Step.receive message).moment w).Passing message := by
  have report := report_receive message w
  constructor
  · intro seconds whole stampable
    have stamped := stamp_of_isStampable whole stampable
    obtain ⟨answer, routed, unanswered⟩ := Router.run_route_idle (w := w.unrecorded) idle stamped
    rw [routed] at report
    refine ⟨answer.elim .nothing .reply, ?_, ?_⟩
    · refine report.trans ?_
      simp only [World.noted, World.unrecorded, String.empty_append, Except.map]
      rfl
    · rw [← unanswered]
      cases answer <;> simp
  · intro outside
    cases stamped : w.unrecorded.stamp with
    | ok text =>
        obtain ⟨seconds, whole, stampable, -⟩ := stamp_eq_ok_iff.mp stamped
        exact absurd stampable (outside seconds whole)
    | error fault =>
        rw [Router.run_route, stamped] at report
        exact ⟨fault, report⟩

theorem unrecorded_of_idle {message : Message} {w : World} (idle : message.Idle w) :
    ((Step.receive message).run.report w).world.unrecorded = w.unrecorded := by
  rw [report_receive]
  cases stamped : w.unrecorded.stamp with
  | error fault =>
      rw [Router.run_route, stamped]
      rfl
  | ok text =>
      obtain ⟨answer, routed, -⟩ := Router.run_route_idle (w := w.unrecorded) idle stamped
      rw [routed]
      rfl

abbrev Entry := Message ⊕ Step

namespace Entry

def step : Entry → Step := Sum.elim .receive id

def Idle (w : World) : Entry → Prop
  | .inl message => message.Idle w
  | .inr _ => True

instance (w : World) : ∀ e : Entry, Decidable (e.Idle w)
  | .inl message => inferInstanceAs (Decidable (message.Idle w))
  | .inr _ => inferInstanceAs (Decidable True)

end Entry

def placed (w : World) (es : List Entry) : List (Entry × Moment) :=
  es.zip (moments w (es.map Entry.step))

theorem placed_nil (w : World) : placed w [] = [] := rfl

theorem placed_cons (e : Entry) (es : List Entry) (w : World) :
    placed w (e :: es) = (e, e.step.moment w) :: placed (e.step.run.report w).world es := rfl

/-- The session without the messages in between keeps all that comes of its steps. -/
structure Undisturbed (w : World) (es : List Entry) : Prop where
  kept : ((placed w es).filter (·.1.isRight)).map (·.2.after) =
    runSteps w (es.filterMap Sum.getRight?)
  passing : ∀ message m, (.inl message, m) ∈ placed w es → m.Passing message

theorem undisturbed_of_idle {w : World} {es : List Entry}
    (idle : ∀ p ∈ placed w es, p.1.Idle p.2.before) : Undisturbed w es := by
  induction es generalizing w with
  | nil =>
      refine ⟨rfl, fun message m member => ?_⟩
      rw [placed_nil] at member
      exact absurd member List.not_mem_nil
  | cons e es ih =>
      rw [placed_cons] at idle
      have rest := ih fun p later => idle p (List.mem_cons_of_mem _ later)
      cases e with
      | inr s =>
          refine ⟨congrArg (s.run.report w :: ·) rest.kept, fun message m member => ?_⟩
          rw [placed_cons] at member
          obtain first | later := List.mem_cons.mp member
          · exact absurd (Prod.mk.inj first).1 Sum.inl_ne_inr
          · exact rest.passing message m later
      | inl message =>
          have idleNow : message.Idle w := idle _ List.mem_cons_self
          refine ⟨?_, fun message' m member => ?_⟩
          · -- The message leaves its mark in the record alone, and each report begins a new one.
            refine rest.kept.trans ?_
            rw [← runSteps_unrecorded]
            refine Eq.trans ?_ (runSteps_unrecorded _ w)
            rw [← unrecorded_of_idle idleNow]
            rfl
          · rw [placed_cons] at member
            obtain first | later := List.mem_cons.mp member
            · obtain ⟨same, moment⟩ := Prod.mk.inj first
              rw [Sum.inl.inj same, moment]
              exact passing_of_idle idleNow
            · exact rest.passing message' m later

theorem undisturbed_of_idle_timer :
    let w := { World.initial with clock := 1762851600 }
    let transport := Transport.recorder {
      self := .nobody
      delivers := fun _ _ => true
      opens := fun _ _ => true }
    let es : List Entry := [.inl (.ofText "hello"), .inr (.register "timer" .timer),
      .inl (.ofText "@Appy calc 1"), .inr (.register "calc" .calculate),
      .inr (.receive (.ofText "@Appy timer 1s")), .inl (.ofText "@Appy CALC 1/0"),
      .inr (.setTransport (some transport)), .inr (.setAnnouncer true),
      .inl (.ofText "@appy sing me a song"), .inr (.runChecker 2)]
    (∀ p ∈ placed w es, p.1.Idle p.2.before) ∧ Undisturbed w es ∧
      (runSteps w (es.filterMap Sum.getRight?)).map (·.world.events) =
        [[], [], [.checkerStarted], [], [],
          [.knocked .nobody, .texted .nobody "⏰ Timer done: 1 second!"]] :=
  ⟨by decide +kernel, undisturbed_of_idle (by decide +kernel), by decide +kernel⟩

theorem not_answered_year_10000 :
    let w := { World.initial with clock := 253402300800, logOpen := false }
    let es : List Entry := [.inl (.ofText "hello")]
    (∀ p ∈ placed w es, p.1.Idle p.2.before) ∧
      ¬ ∀ p ∈ placed w es, ∃ result, p.2.after.result = .ok result := by
  intro w es
  have failed : ((Step.receive (.ofText "hello")).moment w).after.result.isOk = false := by
    decide +kernel
  refine ⟨by decide +kernel, fun answered => ?_⟩
  obtain ⟨result, ok⟩ := answered _ List.mem_cons_self
  rw [show ((Step.receive (.ofText "hello")).moment w).after.result = .ok result from ok] at failed
  cases failed

end Sidekick
