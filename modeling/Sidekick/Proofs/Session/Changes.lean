import Mathlib.Logic.Relation
import Sidekick.Proofs.Session.Moments
import Sidekick.Proofs.Session.Routing

namespace Sidekick

/-- The timers change by one operation of the store, or the rest of the world does. -/
inductive World.Change : World → World → Prop
  | other {w v : World} : v.store = w.store → v.log = w.log → v.logOpen = w.logOpen → Change w v
  | scheduled (w : World) (start : Float) (c : Countdown) (conversation : Address) :
      Change w { w with store := (w.store.schedule start c conversation).2 }
  | expired (w : World) (now : Float) : Change w { w with store := (w.store.expire now).2 }

abbrev World.Changes : World → World → Prop := Relation.ReflTransGen World.Change

theorem World.Changes.log_eq {w v : World} (h : w.Changes v) :
    v.log = w.log ∧ v.logOpen = w.logOpen := by
  induction h with
  | refl => exact ⟨rfl, rfl⟩
  | tail _ change ih =>
      cases change with
      | other _ log logOpen => exact ⟨log.trans ih.1, logOpen.trans ih.2⟩
      | scheduled | expired => exact ih

def Act.Steady {α : Type} (act : Act α) : Prop := ∀ w : World, w.Changes (act.run w).2

namespace Act.Steady

variable {α β : Type}

theorem throw (fault : Fault) : Act.Steady (MonadExcept.throw fault : Act α) := fun _ => .refl

theorem pure (x : α) : Act.Steady (Pure.pure x : Act α) := fun _ => .refl

theorem bind {act : Act α} {next : α → Act β} (first : act.Steady)
    (later : ∀ x, (next x).Steady) : (act >>= next).Steady := by
  intro w
  rw [run_bind_eq]
  refine (first w).trans ?_
  cases (act.run w).1 with
  | ok x => exact later x _
  | error fault => exact .refl

theorem tryCatch {act : Act α} {rescue : Fault → Act α} (first : act.Steady)
    (later : ∀ fault, (rescue fault).Steady) : (tryCatch act rescue : Act α).Steady := by
  intro w
  rw [run_tryCatch_eq]
  refine (first w).trans ?_
  cases (act.run w).1 with
  | ok x => exact .refl
  | error fault => exact later fault _

theorem map {act : Act α} (f : α → β) (h : act.Steady) : (f <$> act).Steady := by
  rw [← bind_pure_comp]
  exact h.bind fun x => .pure (f x)

theorem read {next : World → Act α} (later : ∀ w, (next w).Steady) : (get >>= next).Steady :=
  fun w => by
    rw [run_bind, run_get]
    exact later w w

theorem change {f : World → World} (h : ∀ w, World.Change w (f w)) :
    Act.Steady (modify f : Act Unit) := fun w => .single (h w)

theorem say (line : String) : (say line).Steady := change fun _ => .other rfl rfl rfl

theorem record (e : Event) : (record e).Steady := change fun _ => .other rfl rfl rfl

theorem ofExcept (e : Except Fault α) : (ofExcept e).Steady := by
  cases e with
  | ok x => exact .pure x
  | error fault => exact .throw fault

theorem call (e : Event) : (call e).Steady :=
  (record e).bind fun _ => fun _ => .single (.other rfl rfl rfl)

end Act.Steady

/-! ## Transports -/

theorem steady_raise (trouble : Option (Trouble × String)) : (raise trouble).Steady := by
  cases trouble with
  | none => exact .pure ()
  | some t => exact .throw _

theorem steady_post (b : Bot) (chat : Address) (text : String) : (b.post chat text).Steady :=
  (Act.Steady.call _).bind fun _ => steady_raise _

theorem steady_tolerant (label : String) {act : Act Unit} (h : act.Steady) :
    (act.tolerant label).Steady := by
  refine h.tryCatch fun fault => ?_
  split
  · exact .say _
  · exact .say _
  · exact .throw _

theorem steady_knock (t : Transport) (conversation : Address) :
    (t.knock conversation).Steady := by
  cases t with
  | silent => exact .throw _
  | console => exact .say _
  | recorder r => exact .record _
  | bot b => exact steady_tolerant _ (steady_post b conversation _)

theorem steady_send (t : Transport) (conversation : Address) (text : String) :
    (t.send conversation text).Steady := by
  cases t with
  | silent => exact .throw _
  | console => exact .say _
  | recorder r =>
      refine (Act.Steady.call _).bind fun n => ?_
      split
      · exact .pure ()
      · exact .throw _
  | bot b => exact steady_tolerant _ (steady_post b conversation text)

theorem steady_create (t : Transport) (participant : Address) : (t.create participant).Steady := by
  cases t with
  | silent => exact .throw _
  | console => exact .throw _
  | recorder r =>
      refine (Act.Steady.call _).bind fun n => ?_
      split
      · exact .pure _
      · exact .throw _
  | bot b =>
      have sought : (b.seekChat participant).Steady := (Act.Steady.call _).bind fun _ =>
        (steady_raise _).bind fun _ => .pure participant
      refine sought.tryCatch fun fault => ?_
      split <;> exact .throw _

theorem steady_announce (t : Transport) (conversation : Address) (text : String) :
    (t.announce conversation text).Steady :=
  (steady_knock t conversation).bind fun _ => steady_send t conversation text

/-! ## Timers -/

theorem Timer.steady_announce (t : Timer) : t.announce.Steady := by
  refine .read fun w => ?_
  cases w.announcer with
  | none => exact .pure ()
  | some transport => exact (Sidekick.steady_announce transport _ _).tryCatch fun _ => .say _

namespace Checker

theorem steady_schedule (start : Float) (c : Countdown) (conversation : Address) :
    (schedule start c conversation).Steady := fun w => by
  rw [run_schedule]
  exact .single (.scheduled w start c conversation)

theorem steady_announceAll (ts : List Timer) : (ts.forM Timer.announce).Steady := by
  induction ts with
  | nil => exact .pure ()
  | cons t ts ih => exact t.steady_announce.bind fun _ => ih

theorem steady_fireAt (now : Float) : (fireAt now).Steady := fun w => by
  rw [fireAt, Act.run_bind, Act.run_get]
  dsimp only
  rw [Act.run_bind, Act.run_modify]
  exact .head (.expired w now) (((steady_announceAll _).bind fun _ => .pure _) _)

theorem steady_start : start.Steady := by
  refine .read fun w => ?_
  cases w.checker with
  | true => exact .pure ()
  | false =>
      have started : (modify fun w => { w with checker := true } : Act Unit).Steady :=
        .change fun _ => .other rfl rfl rfl
      exact started.bind fun _ => .record _

theorem steady_pass (seconds : Float) : (pass seconds).Steady := .change fun _ => .other rfl rfl rfl

theorem steady_look (n : Nat) : (look n).Steady := by
  induction n with
  | zero => exact .pure ()
  | succ n ih =>
      refine (steady_pass period).bind fun _ => ?_
      exact (Act.Steady.read fun w => steady_fireAt w.clock).bind fun _ => ih

theorem steady_run (n : Nat) : (run n).Steady := by
  refine .read fun w => ?_
  split
  · exact steady_look n
  · exact steady_pass _

end Checker

/-! ## Commands -/

theorem Web.steady_fetch (url : String) (headers : List (String × String)) :
    (fetch url headers).Steady := fun w => by
  rw [run_fetch_eq]
  exact .single (.other rfl rfl rfl)

theorem Joke.steady_ask (p : Provider) : (ask p).Steady :=
  ((Web.steady_fetch _ _).map some).tryCatch fun _ => (Act.Steady.say _).bind fun _ => .pure none

theorem Joke.steady_online (ps : List Provider) : (online ps).Steady := by
  induction ps with
  | nil => exact .pure none
  | cons p ps ih =>
      refine (steady_ask p).bind fun answer => ?_
      cases answer with
      | none => exact ih
      | some answer =>
          refine (Act.Steady.ofExcept _).bind fun joke => ?_
          cases joke with
          | none => exact ih
          | some joke => exact .pure _

theorem Joke.steady_reply : reply.Steady := by
  refine (steady_online providers).bind fun joke => ?_
  cases joke with
  | none => exact .read fun _ => .pure _
  | some joke => exact .pure joke

theorem Weather.steady_orTell {α : Type} (label : String) {act : Act α} (h : act.Steady) :
    (orTell label act).Steady :=
  (h.map some).tryCatch fun _ => (Act.Steady.say _).bind fun _ => .pure none

theorem Weather.steady_locate (name : String) : (locate name).Steady := by
  refine (steady_orTell _ (Web.steady_fetch _ _)).bind fun answer => ?_
  cases answer with
  | none => exact .pure none
  | some answer => exact .ofExcept _

theorem Weather.steady_reportNow (place : Place) : (reportNow place).Steady := by
  refine (Web.steady_fetch _ _).bind fun forecast => .read fun w => ?_
  exact (Act.Steady.ofExcept _).bind fun seconds => .ofExcept _

theorem Weather.steady_reply (args : String) : (reply args).Steady := by
  rw [reply]
  split
  · exact .pure usage
  · refine (steady_locate _).bind fun place => ?_
    cases place with
    | none => exact .pure _
    | some place =>
        refine (steady_orTell _ (steady_reportNow place)).bind fun text => ?_
        cases text with
        | none => exact .pure _
        | some text => exact .pure text

theorem steady_startTimer (args : String) (conversation : Address) :
    (startTimer args conversation).Steady := by
  refine (Act.Steady.ofExcept _).bind fun asked => ?_
  cases asked with
  | none => exact .pure timerUsage
  | some c =>
      refine Checker.steady_start.bind fun _ => .read fun w => ?_
      exact (Checker.steady_schedule w.clock c conversation).bind fun _ => .pure _

theorem steady_reply (c : Command) (args : String) (conversation : Address) :
    (c.reply args conversation).Steady := by
  cases c with
  | help => exact .pure _
  | calculate => exact .pure _
  | echo => exact .pure _
  | joke => exact Joke.steady_reply
  | weather => exact Weather.steady_reply args
  | timer => exact steady_startTimer args conversation
  | canned text => exact .pure _

/-! ## Messages -/

namespace Router

theorem steady_introduce (t : Transport) (participant : Address) :
    (introduce t participant).Steady := by
  rw [introduce]
  refine (((steady_create t participant).map some).tryCatch fun fault => ?_).bind fun opened => ?_
  · split
    · exact (Act.Steady.say _).bind fun _ => .pure none
    · exact .throw _
  · cases opened with
    | none => exact .pure _
    | some conversation =>
        refine (steady_knock t conversation).bind fun _ => ?_
        exact (steady_send t conversation greeting).bind fun _ => .pure _

theorem steady_answerMention (m : Message) : (answerMention m).Steady := by
  refine .read fun w => ?_
  cases w.transport with
  | none => exact .pure _
  | some t =>
      dsimp only
      split
      · exact .pure _
      · exact steady_introduce t m.replyTo

theorem steady_answer (m : Message) (r : Request) : (answer m r).Steady := by
  unfold answer
  dsimp only
  split
  · exact steady_answerMention m
  · refine .read fun w => ?_
    split
    · exact .pure _
    · exact steady_reply _ r.args m.conversation

variable {m : Message} {w : World}

theorem changes_route {stamp : String} (stamped : w.stamp = .ok stamp) :
    (w.noted (entry stamp m (Request.parse? botName m.text))).Changes ((route m).run w).2 := by
  rw [run_route, stamped]
  cases Request.parse? botName m.text with
  | none => exact .refl
  | some r => exact steady_answer m r _

theorem run_route_unstamped {fault : Fault} (unstamped : w.stamp = .error fault) :
    (route m).run w = (.error fault, w) := by
  rw [run_route, unstamped]

end Router

/-! ## Steps -/

theorem steady_withTransport {act : Transport → Act Unit} (h : ∀ t, (act t).Steady) :
    (withTransport act).Steady := by
  refine .read fun w => ?_
  cases w.transport with
  | none => exact .pure _
  | some t => exact (h t).bind fun _ => .pure _

theorem steady_step {s : Step} (other : ∀ m, s ≠ .receive m) : s.run.Steady := by
  cases s with
  | receive m => exact absurd rfl (other m)
  | register word c => exact fun _ => .single (.other rfl rfl rfl)
  | setTransport t => exact fun _ => .single (.other rfl rfl rfl)
  | setAnnouncer on => exact fun _ => .single (.other rfl rfl rfl)
  | command c args conversation => exact (steady_reply c args conversation).bind fun _ => .pure _
  | schedule c conversation start =>
      exact .read fun w => (Checker.steady_schedule _ c conversation).bind fun _ => .pure _
  | fire now => exact .read fun w => (Checker.steady_fireAt _).bind fun _ => .pure _
  | runChecker looks => exact (Checker.steady_run looks).bind fun _ => .read fun _ => .pure _
  | killChecker => exact fun _ => .single (.other rfl rfl rfl)
  | setClock clock => exact fun _ => .single (.other rfl rfl rfl)
  | setResponses responses => exact fun _ => .single (.other rfl rfl rfl)
  | setPick pick => exact fun _ => .single (.other rfl rfl rfl)
  | announce conversation text =>
      exact steady_withTransport fun t => steady_announce t conversation text
  | send conversation text => exact steady_withTransport fun t => steady_send t conversation text
  | listTimers => exact .read fun _ => .pure _

theorem changes_step (s : Step) (w : World) : w.Changes (s.run.run w).2 ∨
    ∃ entry, (w.noted entry).Changes (s.run.run w).2 := by
  by_cases message : ∃ m, s = .receive m
  · obtain ⟨m, rfl⟩ := message
    rw [world_receive]
    cases stamped : w.stamp with
    | error fault =>
        rw [Router.run_route_unstamped stamped]
        exact .inl .refl
    | ok stamp => exact .inr ⟨_, Router.changes_route stamped⟩
  · exact .inl (steady_step (fun m eq => message ⟨m, eq⟩) w)

end Sidekick
