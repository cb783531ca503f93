import Sidekick.Command
import Sidekick.Proofs.Timer.Announcing
import Sidekick.Proofs.Web.Fetching

namespace Sidekick

def World.reconnected (w : World) (t a : Option Transport) (p : String) : World :=
  { w with transport := t, announcer := a, printed := p }

def Event.isSent : Event → Bool
  | knocked _ | texted .. | creating _ => true
  | _ => false

def World.QuietUntil (w v : World) : Prop :=
  ∃ es, v.events = w.events ++ es ∧ ∀ e ∈ es, e.isSent = false

namespace World.QuietUntil

variable {w v u : World}

theorem of_events (h : v.events = w.events) : w.QuietUntil v :=
  ⟨[], h.trans (List.append_nil _).symm, nofun⟩

theorem trans (h : w.QuietUntil v) (h' : v.QuietUntil u) : w.QuietUntil u := by
  obtain ⟨es, events, quiet⟩ := h
  obtain ⟨more, rest, still⟩ := h'
  refine ⟨es ++ more, ?_, List.forall_mem_append.mpr ⟨quiet, still⟩⟩
  rw [rest, events, List.append_assoc]

end World.QuietUntil

/-- An action that neither looks at the transports nor changes them, adds to the text printed
without a look at it, and asks nothing of a recorder. -/
structure Act.Inward {α : Type} (act : Act α) : Prop where
  frame : ∀ w, ∃ text, ∀ t a p, act.run (w.reconnected t a p) =
    ((act.run w).1, (act.run w).2.reconnected t a (p ++ text))
  quiet : ∀ w : World, w.QuietUntil (act.run w).2

namespace Act.Inward

variable {α β : Type}

theorem throw (fault : Fault) : Act.Inward (MonadExcept.throw fault : Act α) where
  frame w := ⟨"", fun t a p => by rw [String.append_empty]; rfl⟩
  quiet _ := .of_events rfl

theorem pure (x : α) : Act.Inward (Pure.pure x : Act α) where
  frame w := ⟨"", fun t a p => by rw [String.append_empty]; rfl⟩
  quiet _ := .of_events rfl

theorem follow {act : Act α} {both : Act β} (next : Except Fault α → Act β)
    (run : ∀ w, both.run w = (next (act.run w).1).run (act.run w).2) (first : act.Inward)
    (later : ∀ result, (next result).Inward) : both.Inward where
  frame w := by
    obtain ⟨text, frame⟩ := first.frame w
    obtain ⟨more, rest⟩ := (later (act.run w).1).frame (act.run w).2
    refine ⟨text ++ more, fun t a p => ?_⟩
    rw [run, run, frame, ← String.append_assoc]
    exact rest t a (p ++ text)
  quiet w := by
    rw [run]
    exact (first.quiet w).trans ((later (act.run w).1).quiet (act.run w).2)

theorem bind {act : Act α} {next : α → Act β} (first : act.Inward)
    (later : ∀ x, (next x).Inward) : (act >>= next).Inward := by
  refine first.follow (proceed next) (run_bind_eq act next) fun result => ?_
  cases result with
  | ok x => exact later x
  | error fault => exact .throw fault

theorem tryCatch {act : Act α} {rescue : Fault → Act α} (first : act.Inward)
    (later : ∀ fault, (rescue fault).Inward) : (tryCatch act rescue : Act α).Inward := by
  refine first.follow (recover rescue) (run_tryCatch_eq act rescue) fun result => ?_
  cases result with
  | ok x => exact .pure x
  | error fault => exact later fault

theorem map {act : Act α} (f : α → β) (h : act.Inward) : (f <$> act).Inward := by
  rw [← bind_pure_comp]
  exact h.bind fun x => .pure (f x)

theorem read {next : World → Act α} (later : ∀ w, (next w).Inward)
    (blind : ∀ w t a p, next (w.reconnected t a p) = next w) : (get >>= next).Inward where
  frame w := by
    obtain ⟨text, frame⟩ := (later w).frame w
    refine ⟨text, fun t a p => ?_⟩
    rw [run_bind, run_bind, run_get, run_get]
    show (next (w.reconnected t a p)).run (w.reconnected t a p) = _
    rw [blind]
    exact frame t a p
  quiet w := by
    rw [run_bind, run_get]
    exact (later w).quiet w

theorem change {f : World → World}
    (frame : ∀ w t a p, f (w.reconnected t a p) = (f w).reconnected t a p)
    (events : ∀ w, (f w).events = w.events) : Act.Inward (modify f : Act Unit) where
  frame w := ⟨"", fun t a p => by rw [String.append_empty, run_modify, run_modify, frame]⟩
  quiet w := .of_events (events w)

theorem say (line : String) : (say line).Inward where
  frame w := ⟨line ++ "\n", fun t a p => by rw [← String.append_assoc]; rfl⟩
  quiet _ := .of_events rfl

theorem record {e : Event} (h : e.isSent = false) : (record e).Inward where
  frame w := ⟨"", fun t a p => by rw [String.append_empty]; rfl⟩
  quiet w := ⟨[e], rfl, by simpa using h⟩

theorem ofExcept (e : Except Fault α) : (ofExcept e).Inward := by
  cases e with
  | ok x => exact .pure x
  | error fault => exact .throw fault

theorem call {e : Event} (h : e.isSent = false) : (call e).Inward :=
  (record h).bind fun _ => ⟨fun w => ⟨"", fun t a p => by rw [String.append_empty]; rfl⟩,
    fun _ => .of_events rfl⟩

end Act.Inward

/-! ## Asking the web -/

theorem Web.inward_fetch (url : String) (headers : List (String × String)) :
    (fetch url headers).Inward where
  frame w := ⟨"", fun t a p => by rw [run_fetch_eq, run_fetch_eq, String.append_empty]; rfl⟩
  quiet w := ⟨[.requested ⟨url, headers, timeout⟩], by rw [run_fetch_eq], by simp [Event.isSent]⟩

theorem Joke.inward_ask (p : Provider) : (ask p).Inward :=
  ((Web.inward_fetch _ _).map some).tryCatch fun _ => (Act.Inward.say _).bind fun _ => .pure none

theorem Joke.inward_online (ps : List Provider) : (online ps).Inward := by
  induction ps with
  | nil => exact .pure none
  | cons p ps ih =>
      refine (inward_ask p).bind fun answer => ?_
      cases answer with
      | none => exact ih
      | some answer =>
          refine (Act.Inward.ofExcept _).bind fun joke => ?_
          cases joke with
          | none => exact ih
          | some joke => exact .pure _

theorem Joke.inward_reply : reply.Inward := by
  refine (inward_online providers).bind fun joke => ?_
  cases joke with
  | none => exact .read (fun w => .pure _) fun _ _ _ _ => rfl
  | some joke => exact .pure joke

theorem Weather.inward_orTell {α : Type} (label : String) {act : Act α} (h : act.Inward) :
    (orTell label act).Inward :=
  (h.map some).tryCatch fun _ => (Act.Inward.say _).bind fun _ => .pure none

theorem Weather.inward_locate (name : String) : (locate name).Inward := by
  refine (inward_orTell _ (Web.inward_fetch _ _)).bind fun answer => ?_
  cases answer with
  | none => exact .pure none
  | some answer => exact .ofExcept _

theorem Weather.inward_reportNow (place : Place) : (reportNow place).Inward := by
  refine (Web.inward_fetch _ _).bind fun forecast => ?_
  refine .read (fun w => ?_) fun _ _ _ _ => rfl
  exact (Act.Inward.ofExcept _).bind fun seconds => .ofExcept _

theorem Weather.inward_reply (args : String) : (reply args).Inward := by
  rw [reply]
  split
  · exact .pure usage
  · refine (inward_locate _).bind fun place => ?_
    cases place with
    | none => exact .pure _
    | some place =>
        refine (inward_orTell _ (inward_reportNow place)).bind fun text => ?_
        cases text with
        | none => exact .pure _
        | some text => exact .pure text

/-! ## Commands -/

theorem inward_start : Checker.start.Inward := by
  refine .read (fun w => ?_) fun _ _ _ _ => rfl
  cases w.checker with
  | true => exact .pure ()
  | false =>
      have started : (modify fun w => { w with checker := true } : Act Unit).Inward :=
        .change (fun _ _ _ _ => rfl) fun _ => rfl
      exact started.bind fun _ => .record rfl

theorem inward_schedule (start : Float) (c : Countdown) (conversation : Address) :
    (Checker.schedule start c conversation).Inward where
  frame w := ⟨"", fun t a p => by rw [run_schedule, run_schedule, String.append_empty]; rfl⟩
  quiet w := .of_events (by rw [run_schedule])

theorem inward_startTimer (args : String) (conversation : Address) :
    (startTimer args conversation).Inward := by
  refine (Act.Inward.ofExcept _).bind fun asked => ?_
  cases asked with
  | none => exact .pure timerUsage
  | some c =>
      refine inward_start.bind fun _ => .read (fun w => ?_) fun _ _ _ _ => rfl
      exact (inward_schedule _ c conversation).bind fun _ => .pure _

theorem inward_reply (c : Command) (args : String) (conversation : Address) :
    (c.reply args conversation).Inward := by
  cases c with
  | help => exact .pure _
  | calculate => exact .pure _
  | echo => exact .pure _
  | joke => exact Joke.inward_reply
  | weather => exact Weather.inward_reply args
  | timer => exact inward_startTimer args conversation
  | canned text => exact .pure _

/-! ## Transports that are no recorders -/

theorem inward_raise (trouble : Option (Trouble × String)) : (raise trouble).Inward := by
  cases trouble with
  | none => exact .pure ()
  | some t => exact .throw _

theorem inward_tolerant (label : String) {act : Act Unit} (h : act.Inward) :
    (act.tolerant label).Inward := by
  refine h.tryCatch fun fault => ?_
  split
  · exact .say _
  · exact .say _
  · exact .throw _

theorem inward_post (b : Bot) (chat : Address) (text : String) : (b.post chat text).Inward :=
  (Act.Inward.call rfl).bind fun _ => inward_raise _

theorem inward_seekChat (b : Bot) (participant : Address) : (b.seekChat participant).Inward :=
  (Act.Inward.call rfl).bind fun _ => (inward_raise _).bind fun _ => .pure _

section

variable {t : Transport} (other : ∀ r, t ≠ .recorder r)

include other

theorem inward_knock (conversation : Address) : (t.knock conversation).Inward := by
  cases t with
  | silent => exact .throw _
  | console => exact .say _
  | recorder r => exact absurd rfl (other r)
  | bot b => exact inward_tolerant _ (inward_post b conversation _)

theorem inward_send (conversation : Address) (text : String) :
    (t.send conversation text).Inward := by
  cases t with
  | silent => exact .throw _
  | console => exact .say _
  | recorder r => exact absurd rfl (other r)
  | bot b => exact inward_tolerant _ (inward_post b conversation text)

theorem inward_announce (conversation : Address) (text : String) :
    (t.announce conversation text).Inward :=
  (inward_knock other conversation).bind fun _ => inward_send other conversation text

theorem inward_create (participant : Address) : (t.create participant).Inward := by
  cases t with
  | silent => exact .throw _
  | console => exact .throw _
  | recorder r => exact absurd rfl (other r)
  | bot b =>
      refine (inward_seekChat b participant).tryCatch fun fault => ?_
      split <;> exact .throw _

end

end Sidekick
