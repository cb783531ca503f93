import Sidekick.Proofs.Sequence
import Sidekick.Timer.Checker

namespace Sidekick

def World.retimed (w : World) (s : Store) (clock : Float) (checker : Bool) : World :=
  { w with store := s, clock := clock, checker := checker }

def World.starts (w : World) : Nat := w.events.count .checkerStarted

/-- An action that neither looks at the timers, the clock and the checker nor changes them, and
keeps the announcer. -/
structure Act.Detached {α : Type} (act : Act α) : Prop where
  frame : ∀ w s clock checker, act.run (w.retimed s clock checker) =
    ((act.run w).1, (act.run w).2.retimed s clock checker)
  announcer : ∀ w, (act.run w).2.announcer = w.announcer
  starts : ∀ w, (act.run w).2.starts = w.starts

namespace Act.Detached

variable {α β : Type}

theorem throw (fault : Fault) : Act.Detached (MonadExcept.throw fault : Act α) where
  frame _ _ _ _ := rfl
  announcer _ := rfl
  starts _ := rfl

theorem pure (x : α) : Act.Detached (Pure.pure x : Act α) where
  frame _ _ _ _ := rfl
  announcer _ := rfl
  starts _ := rfl

theorem follow {act : Act α} {both : Act β} (next : Except Fault α → Act β)
    (run : ∀ w, both.run w = (next (act.run w).1).run (act.run w).2) (first : act.Detached)
    (later : ∀ result, (next result).Detached) : both.Detached where
  frame w s clock checker := by
    rw [run, run, first.frame]
    exact (later _).frame _ s clock checker
  announcer w := by
    rw [run]
    exact ((later _).announcer _).trans (first.announcer w)
  starts w := by
    rw [run]
    exact ((later _).starts _).trans (first.starts w)

theorem bind {act : Act α} {next : α → Act β} (first : act.Detached)
    (later : ∀ x, (next x).Detached) : (act >>= next).Detached := by
  refine first.follow (proceed next) (run_bind_eq act next) fun result => ?_
  cases result with
  | ok x => exact later x
  | error fault => exact .throw fault

theorem tryCatch {act : Act α} {rescue : Fault → Act α} (first : act.Detached)
    (later : ∀ fault, (rescue fault).Detached) : (tryCatch act rescue : Act α).Detached := by
  refine first.follow (recover rescue) (run_tryCatch_eq act rescue) fun result => ?_
  cases result with
  | ok x => exact .pure x
  | error fault => exact later fault

theorem record {e : Event} (other : e ≠ .checkerStarted) : (record e).Detached where
  frame _ _ _ _ := rfl
  announcer _ := rfl
  starts w := by
    show (w.events ++ [e]).count _ = w.events.count _
    rw [List.count_append, List.count_singleton, beq_false_of_ne other]
    rfl

theorem say (line : String) : (say line).Detached where
  frame _ _ _ _ := rfl
  announcer _ := rfl
  starts _ := rfl

theorem call {e : Event} (other : e ≠ .checkerStarted) : (call e).Detached :=
  (record other).bind fun _ => ⟨fun _ _ _ _ => rfl, fun _ => rfl, fun _ => rfl⟩

end Act.Detached

/-! ## Transports -/

theorem detached_raise (trouble : Option (Trouble × String)) : (raise trouble).Detached := by
  cases trouble with
  | none => exact .pure ()
  | some t => exact .throw _

theorem detached_tolerant (label : String) {act : Act Unit} (h : act.Detached) :
    (act.tolerant label).Detached := by
  apply h.tryCatch
  intro fault
  split
  · exact .say _
  · exact .say _
  · exact .throw _

theorem detached_post (b : Bot) (chat : Address) (text : String) : (b.post chat text).Detached :=
  (Act.Detached.call Event.noConfusion).bind fun _ => detached_raise _

theorem detached_knock (t : Transport) (conversation : Address) :
    (t.knock conversation).Detached := by
  cases t with
  | silent => exact .throw _
  | console => exact .say _
  | recorder r => exact .record Event.noConfusion
  | bot b => exact detached_tolerant _ (detached_post b conversation _)

theorem detached_send (t : Transport) (conversation : Address) (text : String) :
    (t.send conversation text).Detached := by
  cases t with
  | silent => exact .throw _
  | console => exact .say _
  | recorder r =>
      apply (Act.Detached.call Event.noConfusion).bind
      intro n
      cases delivered : r.delivers n conversation with
      | true => simpa [delivered] using Act.Detached.pure ()
      | false => simpa [delivered] using Act.Detached.throw (α := Unit) _
  | bot b => exact detached_tolerant _ (detached_post b conversation text)

theorem detached_announce (t : Transport) (conversation : Address) (text : String) :
    (t.announce conversation text).Detached :=
  (detached_knock t conversation).bind fun _ => detached_send t conversation text

/-! ## Announcements -/

def told : Except Fault Unit × World → World
  | (.ok _, w) => w
  | (.error fault, w) =>
    { w with printed := w.printed ++ ("  [timer] announce failed: " ++ fault.message) ++ "\n" }

theorem told_kept {α : Type} {f : World → α}
    (blind : ∀ w printed, f { w with printed := printed } = f w)
    (outcome : Except Fault Unit × World) : f (told outcome) = f outcome.2 := by
  obtain ⟨result, w⟩ := outcome
  cases result with
  | ok x => rfl
  | error fault => exact blind w _

def announced (w : World) (t : Timer) : World :=
  match w.announcer with
  | none => w
  | some transport => told ((transport.announce t.conversation t.done).run w)

section

variable {w : World} {transport : Transport}

theorem announced_none (h : w.announcer = none) (t : Timer) : announced w t = w := by
  simp only [announced, h]

theorem announced_some (h : w.announcer = some transport) (t : Timer) :
    announced w t = told ((transport.announce t.conversation t.done).run w) := by
  simp only [announced, h]

end

theorem run_announce (t : Timer) (w : World) : t.announce.run w = (.ok (), announced w t) := by
  rw [Timer.announce, Act.run_bind, Act.run_get]
  cases found : w.announcer with
  | none =>
      rw [announced_none found]
      simp only [found]
      rfl
  | some transport =>
      rw [announced_some found]
      simp only [found, Act.run_tryCatch]
      cases (transport.announce t.conversation t.done).run w with
      | mk r after => cases r <;> rfl

theorem announced_announcer (w : World) (t : Timer) : (announced w t).announcer = w.announcer := by
  cases found : w.announcer with
  | none => rw [announced_none found, found]
  | some transport =>
      have kept := (detached_announce transport t.conversation t.done).announcer w
      rw [announced_some found, told_kept (f := World.announcer) fun _ _ => rfl, kept, found]

theorem announced_starts (w : World) (t : Timer) : (announced w t).starts = w.starts := by
  cases found : w.announcer with
  | none => rw [announced_none found]
  | some transport =>
      have kept := (detached_announce transport t.conversation t.done).starts w
      rw [announced_some found, told_kept (f := World.starts) fun _ _ => rfl, kept]

theorem foldl_announced_kept {α : Type} {f : World → α} (kept : ∀ w t, f (announced w t) = f w)
    (ts : List Timer) (w : World) : f (ts.foldl announced w) = f w := by
  induction ts generalizing w with
  | nil => rfl
  | cons t ts ih => exact (ih _).trans (kept w t)

theorem announced_retimed (w : World) (t : Timer) (s : Store) (clock : Float) (checker : Bool) :
    announced (w.retimed s clock checker) t = (announced w t).retimed s clock checker := by
  obtain found | ⟨transport, found⟩ := Option.eq_none_or_eq_some w.announcer
  · have same : (w.retimed s clock checker).announcer = none := found
    rw [announced_none found, announced_none same]
  · have same : (w.retimed s clock checker).announcer = some transport := found
    rw [announced_some found, announced_some same,
      (detached_announce transport t.conversation t.done).frame]
    cases (transport.announce t.conversation t.done).run w with
    | mk r after => cases r <;> rfl

theorem foldl_announced_retimed (ts : List Timer) (w : World) (s : Store) (clock : Float)
    (checker : Bool) : ts.foldl announced (w.retimed s clock checker) =
      (ts.foldl announced w).retimed s clock checker := by
  induction ts generalizing w with
  | nil => rfl
  | cons t ts ih => rw [List.foldl_cons, List.foldl_cons, announced_retimed, ih]

theorem foldl_announced_self (ts : List Timer) (w : World) :
    ts.foldl announced w = (ts.foldl announced w).retimed w.store w.clock w.checker :=
  foldl_announced_retimed ts w w.store w.clock w.checker

theorem foldl_announced_store (ts : List Timer) (w : World) (s : Store) :
    ts.foldl announced { w with store := s } = { ts.foldl announced w with store := s } := by
  have retimed := foldl_announced_retimed ts w s w.clock w.checker
  rw [foldl_announced_self ts w]
  exact retimed

theorem foldl_announced_of_clock (ts : List Timer) (w : World) (clock : Float) :
    ts.foldl announced { w with clock := clock } = { ts.foldl announced w with clock := clock } := by
  have retimed := foldl_announced_retimed ts w w.store clock w.checker
  rw [foldl_announced_self ts w]
  exact retimed

theorem run_forM_announce (ts : List Timer) (w : World) :
    (ts.forM Timer.announce).run w = (.ok (), ts.foldl announced w) := by
  induction ts generalizing w with
  | nil => rfl
  | cons t ts ih =>
      show ((t.announce >>= fun _ => ts.forM Timer.announce : Act Unit)).run w = _
      rw [Act.run_bind, run_announce]
      exact ih (announced w t)

theorem run_fireAt (now : Float) (w : World) : (Checker.fireAt now).run w =
    (.ok (w.store.timers.filter (Store.isDue now)).length,
      (w.store.timers.filter (Store.isDue now)).foldl announced { w with
        store := ⟨w.store.timers.filter (!Store.isDue now ·), w.store.next⟩ }) := by
  have due := Store.due_expire w.store now
  have timers := Store.timers_expire w.store now
  have store : (w.store.expire now).2 =
      ⟨w.store.timers.filter (!Store.isDue now ·), w.store.next⟩ := by
    rw [← timers]
    rfl
  rw [Checker.fireAt, Act.run_bind, Act.run_get]
  simp only [Act.run_bind, Act.run_modify, run_forM_announce, due, store]
  rfl

theorem run_schedule (start : Float) (c : Countdown) (conversation : Address) (w : World) :
    (Checker.schedule start c conversation).run w =
      ((w.store.schedule start c conversation).1,
        { w with store := (w.store.schedule start c conversation).2 }) := by
  rw [Checker.schedule, Act.run_bind, Act.run_get]
  simp only [Act.run_bind, Act.run_modify, Act.run_ofExcept]

end Sidekick
