import Sidekick.Telegram
import Sidekick.Proofs.Telegram.Alike
import Sidekick.Proofs.Timer.Polling

namespace Sidekick
open Telegram

def Telegram.Incoming.refusing (m : Incoming) (reason : Option String) : Incoming :=
  { m with replyTrouble := reason.map (.refused, ·) }

inductive Happening where
  | update (u : Option Incoming)
  | expiry (now : Float)
  | looks (n : Nat)

namespace Happening

def act : Happening → Act Unit
  | update u => handleUpdate u
  | expiry now => do
    let _ ← Checker.fireAt now
  | looks n => Checker.run n

def routed (w : World) : Happening → Option (Except Fault (Option String))
  | update (some m) => m.text.bind fun text =>
      if text = "" then none else some ((Router.route (m.toMessage text)).run w).1
  | _ => none

/-- The same happening, but for the trouble with a reply, which is refused at worst. -/
inductive Like : Happening → Happening → Prop
  | idle : Like (update none) (update none)
  | message (m : Incoming) (reason reason' : Option String) :
    Like (update (some (m.refusing reason))) (update (some (m.refusing reason')))
  | expiry (now : Float) : Like (expiry now) (expiry now)
  | looks (n : Nat) : Like (looks n) (looks n)

end Happening

def happened (w : World) (hs : List Happening) : World := hs.foldl (fun w h => (h.act.run w).2) w

def replies (w : World) : List Happening → List (Option (Except Fault (Option String)))
  | [] => []
  | h :: hs => h.routed w :: replies (h.act.run w).2 hs

/-! ## One happening -/

theorem run_reply (m : Incoming) (reason : Option String) (text : String) (w : World) :
    ((m.refusing reason).reply text).run w = (.ok (), { w with
      events := w.events ++ [.replied text]
      printed := w.printed ++ failureLine "Reply" (reason.map (.refused, ·)) }) := by
  cases reason with
  | none =>
      rw [Option.map_none, failureLine, String.append_empty]
      rfl
  | some reason =>
      rw [Option.map_some, failureLine, ← String.append_assoc]
      rfl

section

variable {b b' : Bot}

theorem alike_reply (m : Incoming) (reason reason' : Option String) (text : String) :
    Act.Alike b b' ((m.refusing reason).reply text) ((m.refusing reason').reply text) := by
  intro w p q told
  exact ⟨.ok (), { w with events := w.events ++ [.replied text] }, _, _,
    told.failureLines (.inl rfl) _ _, run_reply m reason text (b.carries w p),
    run_reply m reason' text (b'.carries w q)⟩

variable (twins : Twins b b')

include twins

theorem alike_handle (m : Incoming) (reason reason' : Option String) (text : String) :
    Act.Alike b b' ((m.refusing reason).handle text) ((m.refusing reason').handle text) := by
  refine Act.Alike.bind (.of_inward (.say _)) fun _ => ?_
  refine (alike_route twins (m.toMessage text)).bind fun answer => ?_
  cases answer with
  | none => exact .of_inward (.pure ())
  | some reply => exact Act.Alike.bind (.of_inward (.say _)) fun _ => alike_reply m _ _ reply

theorem alike_update (m : Incoming) (reason reason' : Option String) :
    Act.Alike b b' (handleUpdate (some (m.refusing reason)))
      (handleUpdate (some (m.refusing reason'))) := by
  have same (reason : Option String) : (m.refusing reason).text = m.text := rfl
  rw [handleUpdate, handleUpdate, same, same]
  split
  · exact .of_inward (.pure ())
  · exact .of_inward (.pure ())
  · exact (alike_handle twins m reason reason' _).tryCatch fun _ => .record rfl

theorem alike_act {h h' : Happening} (like : h.Like h') : Act.Alike b b' h.act h'.act := by
  cases like with
  | idle => exact .of_inward (.pure ())
  | message m reason reason' => exact alike_update twins m reason reason'
  | expiry now => exact (alike_fireAt twins now).bind fun _ => .of_inward (.pure ())
  | looks n => exact alike_run twins n

theorem routed_eq {h h' : Happening} (like : h.Like h') {w : World} {p q : String}
    (told : ToldAlike p q) : h'.routed (b'.carries w q) = h.routed (b.carries w p) := by
  cases like with
  | message m reason reason' =>
      have same (text : String) :
          ((Router.route ((m.refusing reason').toMessage text)).run (b'.carries w q)).1 =
            ((Router.route ((m.refusing reason).toMessage text)).run (b.carries w p)).1 := by
        obtain ⟨result, v, p', q', -, left, right⟩ :=
          alike_route twins (m.toMessage text) w p q told
        exact (congrArg Prod.fst right).trans (congrArg Prod.fst left).symm
      simp only [Happening.routed, same]
      rfl
  | _ => rfl

end

/-! ## Calls behind failed calls -/

def knockAndText (chat : Address) (text : String) : List Event :=
  [.messageSent chat "🔔", .messageSent chat text]

def Telegram.Incoming.heard (m : Incoming) (text : String) (w : World) : World :=
  { w with printed :=
      w.printed ++ ("  " ++ (m.toMessage text).source ++ " \"" ++ text ++ "\"") ++ "\n" }

/-- No failed call keeps a bot from the calls after it. -/
structure Bot.Persists (b : Bot) : Prop where
  announces : ∀ w chat text, ∃ v, ((Transport.bot b).announce chat text).run w = (.ok (), v) ∧
    v.events = w.events ++ knockAndText chat text
  greets : ∀ w participant, b.chatTrouble w.calls participant = none →
    ∃ v reply, (Router.introduce (.bot b) participant).run w = (.ok reply, v) ∧
      v.events = w.events ++ .chatSought participant ::
        knockAndText (b.chat w.calls participant) Router.greeting
  endsTimers : ∀ w now, w.announcer = some (.bot b) → ((Checker.fireAt now).run w).2.events =
    w.events ++ (w.store.timers.filter (Store.isDue now)).flatMap fun t =>
      knockAndText t.conversation t.done
  answers : ∀ w (m : Incoming) reason text reply v, m.text = some text → text ≠ "" →
    (Router.route (m.toMessage text)).run (m.heard text w) = (.ok (some reply), v) →
    ∃ u, (handleUpdate (some (m.refusing reason))).run w = (.ok (), u) ∧
      u.events = v.events ++ [.replied reply]

theorem run_create_bot {b : Bot} {participant : Address} {w : World}
    (found : b.chatTrouble w.calls participant = none) :
    ((Transport.bot b).create participant).run w = (.ok (b.chat w.calls participant),
      { w with events := w.events ++ [.chatSought participant], calls := w.calls + 1 }) := by
  have called : (call (.chatSought participant)).run w = (.ok w.calls,
      { w with events := w.events ++ [.chatSought participant], calls := w.calls + 1 }) := rfl
  rw [Transport.create, Act.run_tryCatch, Bot.seekChat, Act.run_bind, called]
  simp only [found]
  rfl

theorem run_handle_answered {m : Incoming} {text reply : String} {w v : World}
    (routed : (Router.route (m.toMessage text)).run (m.heard text w) = (.ok (some reply), v)) :
    (m.handle text).run w = (m.reply reply).run { v with printed :=
      v.printed ++ ("  Response: \"" ++ reply ++ "\"") ++ "\n" } := by
  have heard : (say ("  " ++ (m.toMessage text).source ++ " \"" ++ text ++ "\"")).run w =
    (.ok (), m.heard text w) := rfl
  rw [Incoming.handle, Act.run_bind, heard]
  simp only [Act.run_bind, routed]
  rfl

theorem persists_of_mild {b : Bot} (mild : b.Mild) : b.Persists := by
  have announces (w : World) (chat : Address) (text : String) :
      ∃ v, ((Transport.bot b).announce chat text).run w = (.ok (), v) ∧
        v.events = w.events ++ knockAndText chat text := by
    rw [Transport.announce, Act.run_bind]
    simp only [Transport.knock, Transport.send, run_tolerant_post mild]
    exact ⟨_, rfl, by simp [knockAndText]⟩
  refine ⟨announces, fun w participant found => ?_, fun w now told => ?_,
    fun w m reason text reply v given named routed => ?_⟩
  · rw [Router.introduce, Act.run_bind, Act.run_tryCatch, ← bind_pure_comp, Act.run_bind,
      run_create_bot found]
    simp only [Act.run_pure, Act.run_bind, Transport.knock, Transport.send, run_tolerant_post mild]
    exact ⟨_, _, rfl, by simp [knockAndText]⟩
  · rw [run_fireAt, foldl_announced_store]
    refine events_foldl_of_announced (fun w t told => ?_) told _
    obtain ⟨v, announced, events⟩ := announces w t.conversation t.done
    rw [announced_some told, announced]
    exact events
  · have handled := run_handle_answered (m := m.refusing reason) routed
    rw [run_reply] at handled
    have same : (m.refusing reason).text = some text := given
    simp only [handleUpdate, same]
    rw [Act.run_tryCatch, handled]
    exact ⟨_, rfl, rfl⟩

/-! ## Whole runs -/

structure Isolated (b b' : Bot) (w : World) (printed : String) (hs hs' : List Happening) :
    Prop where
  replies : replies (b'.carries w printed) hs' = replies (b.carries w printed) hs
  /-- All calls are the same, and so are the log and the timers that wait. Only other failures are
  told of. -/
  world : ∃ printed', ToldAlike (happened (b.carries w printed) hs).printed printed' ∧
    happened (b'.carries w printed) hs' = b'.carries (happened (b.carries w printed) hs) printed'
  persists : b.Persists
  persists' : b'.Persists

theorem alike_run_of_happenings {b b' : Bot} (twins : Twins b b') {hs hs' : List Happening}
    (like : List.Forall₂ Happening.Like hs hs') (w : World) {p q : String} (told : ToldAlike p q) :
    replies (b'.carries w q) hs' = replies (b.carries w p) hs ∧
      ∃ v p' q', ToldAlike p' q' ∧ happened (b.carries w p) hs = b.carries v p' ∧
        happened (b'.carries w q) hs' = b'.carries v q' := by
  -- Behind both bots there is one and the same world, which the induction carries along.
  induction like generalizing w p q with
  | nil => exact ⟨rfl, w, p, q, told, rfl, rfl⟩
  | @cons h h' hs hs' first rest ih =>
      obtain ⟨result, u, p', q', told', left, right⟩ := alike_act twins first w p q told
      obtain ⟨answered, v, p'', q'', told'', left', right'⟩ := ih u told'
      refine ⟨?_, v, p'', q'', told'', ?_, ?_⟩
      · rw [replies, replies, routed_eq twins first told, left, right, answered]
      · rw [happened, List.foldl_cons, ← happened, left, left']
      · rw [happened, List.foldl_cons, ← happened, right, right']

theorem isolated_of_run {b b' : Bot} (twins : Twins b b') {hs hs' : List Happening}
    (like : List.Forall₂ Happening.Like hs hs') (w : World) (printed : String) :
    Isolated b b' w printed hs hs' := by
  obtain ⟨answered, v, p, q, told, left, right⟩ :=
    alike_run_of_happenings twins like w (.refl printed)
  refine ⟨answered, ⟨q, ?_, ?_⟩, persists_of_mild twins.mild, persists_of_mild twins.mild'⟩
  · rw [left]
    exact told
  · rw [left, right]
    rfl

theorem isolated_of_run_blocked :
    let b : Bot := {
      self := .number 999
      username := "appy_bot"
      sendTrouble := fun _ _ => none
      chatTrouble := fun _ _ => none }
    let trouble (n : Nat) (_ : Address) : Option (Trouble × String) :=
      if n = 1 then some (.refused, "blocked") else some (.timedOut, "")
    let b' : Bot := { b with sendTrouble := trouble }
    let joe : User := ⟨.number 5, some "Joe", none⟩
    let bare : Incoming := ⟨some "@Appy", .number 5, some joe, some ⟨.number 7, none, none⟩, none⟩
    let timer : Incoming := ⟨some "@Appy timer 1s", .number 5, some joe, none, none⟩
    let hs := [.update (some (bare.refusing none)), .update none,
      .update (some (timer.refusing (some "Chat not found"))), .expiry 5]
    let hs' := [.update (some (bare.refusing (some "Forbidden"))), .update none,
      .update (some (timer.refusing none)), .expiry 5]
    let w := { World.initial with commands := [("timer", .timer)] }
    Twins b b' ∧ List.Forall₂ Happening.Like hs hs' ∧ Isolated b b' w "" hs hs' ∧
      (happened (b.carries w "") hs).events = [.chatSought (.number 7),
        .messageSent (.number 7) "🔔", .messageSent (.number 7) Router.greeting,
        .replied "✅ Created a new conversation with that person. Check your chat list.",
        .checkerStarted, .replied "⏳ Timer started for 1 second.",
        .messageSent (.number 5) "🔔", .messageSent (.number 5) "⏰ Timer done: 1 second!"] := by
  intro b trouble b' joe bare timer hs hs' w
  have twins : Twins b b' := by
    refine ⟨rfl, rfl, rfl, fun n chat reason => nofun, fun n chat reason => ?_⟩
    show (if n = 1 then _ else _) ≠ _
    split <;> simp
  have like : List.Forall₂ Happening.Like hs hs' :=
    .cons (.message bare _ _) (.cons .idle (.cons (.message timer _ _) (.cons (.expiry 5) .nil)))
  exact ⟨twins, like, isolated_of_run twins like w "", by decide +kernel⟩

end Sidekick
