import Sidekick.Proofs.Session.Routing

namespace Sidekick

def TellsFailure (line : String) : Prop :=
  ∃ label reason, line = "  " ++ label ++ " failed: " ++ reason ++ "\n" ∧
    (label = "Reply" ∨ ∃ chat : Address,
      label = "Knock to " ++ chat.text ∨ label = "Send to " ++ chat.text)

/-- The same text, but for the lines that tell of failed calls. -/
inductive ToldAlike : String → String → Prop
  | nothing : ToldAlike "" ""
  | both {p q : String} (text : String) : ToldAlike p q → ToldAlike (p ++ text) (q ++ text)
  | left {p q line : String} : ToldAlike p q → TellsFailure line → ToldAlike (p ++ line) q
  | right {p q line : String} : ToldAlike p q → TellsFailure line → ToldAlike p (q ++ line)

theorem ToldAlike.refl (p : String) : ToldAlike p p := by
  have same := ToldAlike.nothing.both p
  rwa [String.empty_append] at same

/-- The texts it fails to send are refused or late. -/
def Bot.Mild (b : Bot) : Prop := ∀ n chat reason, b.sendTrouble n chat ≠ some (.broken, reason)

/-- Bots that differ in the texts they fail to send. -/
structure Twins (b b' : Bot) : Prop where
  self : b'.self = b.self
  sought : b'.chatTrouble = b.chatTrouble
  chats : b'.chat = b.chat
  mild : b.Mild
  mild' : b'.Mild

def Bot.carries (b : Bot) (w : World) (printed : String) : World :=
  w.reconnected (some (.bot b)) (some (.bot b)) printed

/-- Actions that do the same behind two bots, but for the lines that tell of failed calls. -/
def Act.Alike {α : Type} (b b' : Bot) (act act' : Act α) : Prop :=
  ∀ w p q, ToldAlike p q → ∃ result v p' q', ToldAlike p' q' ∧
    act.run (b.carries w p) = (result, b.carries v p') ∧
    act'.run (b'.carries w q) = (result, b'.carries v q')

namespace Act.Alike

variable {α β : Type} {b b' : Bot}

theorem of_inward {act : Act α} (h : act.Inward) : Act.Alike b b' act act := by
  intro w p q told
  obtain ⟨text, frame⟩ := h.frame w
  exact ⟨(act.run w).1, (act.run w).2, p ++ text, q ++ text, told.both text, frame _ _ p,
    frame _ _ q⟩

theorem follow {act act' : Act α} {both both' : Act β} (next next' : Except Fault α → Act β)
    (run : ∀ w, both.run w = (next (act.run w).1).run (act.run w).2)
    (run' : ∀ w, both'.run w = (next' (act'.run w).1).run (act'.run w).2)
    (first : Act.Alike b b' act act')
    (later : ∀ result, Act.Alike b b' (next result) (next' result)) :
    Act.Alike b b' both both' := by
  intro w p q told
  obtain ⟨result, v, p', q', told', left, right⟩ := first w p q told
  obtain ⟨last, u, p'', q'', told'', left', right'⟩ := later result v p' q' told'
  refine ⟨last, u, p'', q'', told'', ?_, ?_⟩
  · rw [run, left]
    exact left'
  · rw [run', right]
    exact right'

theorem bind {act act' : Act α} {next next' : α → Act β} (first : Act.Alike b b' act act')
    (later : ∀ x, Act.Alike b b' (next x) (next' x)) :
    Act.Alike b b' (act >>= next) (act' >>= next') := by
  refine first.follow (proceed next) (proceed next') (run_bind_eq act next)
    (run_bind_eq act' next') fun result => ?_
  cases result with
  | ok x => exact later x
  | error fault => exact of_inward (.throw fault)

theorem tryCatch {act act' : Act α} {rescue : Fault → Act α} (first : Act.Alike b b' act act')
    (later : ∀ fault, (rescue fault).Inward) :
    Act.Alike b b' (tryCatch act rescue) (tryCatch act' rescue) := by
  refine first.follow (recover rescue) (recover rescue) (run_tryCatch_eq act rescue)
    (run_tryCatch_eq act' rescue) fun result => ?_
  cases result with
  | ok x => exact of_inward (.pure x)
  | error fault => exact of_inward (later fault)

theorem read {next next' : World → Act α}
    (later : ∀ w p q, Act.Alike b b' (next (b.carries w p)) (next' (b'.carries w q))) :
    Act.Alike b b' (get >>= next) (get >>= next') := by
  intro w p q told
  rw [run_bind, run_bind, run_get, run_get]
  exact later w p q w p q told

theorem forM (f : β → Act Unit) (xs : List β) (same : ∀ x ∈ xs, Act.Alike b b' (f x) (f x)) :
    Act.Alike b b' (xs.forM f) (xs.forM f) := by
  induction xs with
  | nil => exact of_inward (.pure ())
  | cons x xs ih =>
      have first := same x List.mem_cons_self
      have rest := ih fun y later => same y (List.mem_cons_of_mem x later)
      exact first.bind fun _ => rest

end Act.Alike

/-! ## Bots -/

def failureLine (label : String) : Option (Trouble × String) → String
  | none => ""
  | some (trouble, reason) =>
    "  " ++ label ++ " failed: " ++ (Fault.service trouble reason).message ++ "\n"

theorem run_tolerant_post {b : Bot} (mild : b.Mild) (label : String) (chat : Address)
    (text : String) (w : World) : ((b.post chat text).tolerant label).run w =
      (.ok (), { w with
        events := w.events ++ [.messageSent chat text], calls := w.calls + 1
        printed := w.printed ++ failureLine label (b.sendTrouble w.calls chat) }) := by
  have called : (call (.messageSent chat text)).run w = (.ok w.calls,
      { w with events := w.events ++ [.messageSent chat text], calls := w.calls + 1 }) := rfl
  have said (line : String) : w.printed ++ (line ++ "\n") = w.printed ++ line ++ "\n" :=
    String.append_assoc.symm
  rw [Act.tolerant, Act.run_tryCatch, Bot.post, Act.run_bind, called]
  cases trouble : b.sendTrouble w.calls chat with
  | none => simp only [trouble, failureLine, String.append_empty]; rfl
  | some kind =>
      obtain ⟨kind, reason⟩ := kind
      cases kind with
      | broken => exact absurd trouble (mild w.calls chat reason)
      | refused =>
          rw [failureLine, said]
          simp only [trouble]
          rfl
      | timedOut =>
          rw [failureLine, said]
          simp only [trouble]
          rfl

theorem ToldAlike.failureLines {p q label : String} (told : ToldAlike p q)
    (named : label = "Reply" ∨ ∃ chat : Address,
      label = "Knock to " ++ chat.text ∨ label = "Send to " ++ chat.text)
    (trouble trouble' : Option (Trouble × String)) :
    ToldAlike (p ++ failureLine label trouble) (q ++ failureLine label trouble') := by
  have left : ToldAlike (p ++ failureLine label trouble) q := by
    cases trouble with
    | none =>
        rw [failureLine, String.append_empty]
        exact told
    | some kind => exact told.left ⟨label, _, rfl, named⟩
  cases trouble' with
  | none =>
      rw [failureLine, String.append_empty]
      exact left
  | some kind => exact left.right ⟨label, _, rfl, named⟩

section

variable {b b' : Bot} (twins : Twins b b')

include twins

theorem alike_tolerant_post {label : String} {chat : Address} (text : String)
    (named : label = "Knock to " ++ chat.text ∨ label = "Send to " ++ chat.text) :
    Act.Alike b b' ((b.post chat text).tolerant label) ((b'.post chat text).tolerant label) := by
  intro w p q told
  have both := told.failureLines (.inr ⟨chat, named⟩) (b.sendTrouble w.calls chat)
    (b'.sendTrouble w.calls chat)
  exact ⟨.ok (), { w with events := w.events ++ [.messageSent chat text], calls := w.calls + 1 },
    _, _, both, run_tolerant_post twins.mild label chat text (b.carries w p),
    run_tolerant_post twins.mild' label chat text (b'.carries w q)⟩

theorem alike_knock (chat : Address) :
    Act.Alike b b' ((Transport.bot b).knock chat) ((Transport.bot b').knock chat) :=
  alike_tolerant_post twins _ (.inl rfl)

theorem alike_send (chat : Address) (text : String) :
    Act.Alike b b' ((Transport.bot b).send chat text) ((Transport.bot b').send chat text) :=
  alike_tolerant_post twins text (.inr rfl)

theorem alike_announce (chat : Address) (text : String) :
    Act.Alike b b' ((Transport.bot b).announce chat text) ((Transport.bot b').announce chat text) :=
  (alike_knock twins chat).bind fun _ => alike_send twins chat text

theorem create_eq (participant : Address) :
    (Transport.bot b').create participant = (Transport.bot b).create participant := by
  simp only [Transport.create, Bot.seekChat, twins.sought, twins.chats]

/-! ## Messages -/

theorem alike_introduce (participant : Address) :
    Act.Alike b b' (Router.introduce (.bot b) participant)
      (Router.introduce (.bot b') participant) := by
  have noRecorder (r : Recorder) : Transport.bot b ≠ .recorder r := Transport.noConfusion
  rw [Router.introduce, Router.introduce, create_eq twins]
  refine Act.Alike.bind ?_ fun opened => ?_
  · exact .of_inward (Router.inward_opening noRecorder participant)
  · cases opened with
    | none => exact .of_inward (.pure _)
    | some chat =>
        refine (alike_knock twins chat).bind fun _ => ?_
        exact (alike_send twins chat _).bind fun _ => .of_inward (.pure _)

theorem alike_answerMention (m : Message) :
    Act.Alike b b' (Router.answerMention m) (Router.answerMention m) := by
  refine .read fun w p q => ?_
  show Act.Alike b b'
    (if m.replyTo = .nobody ∨ m.replyTo = b.self then pure Help.text
      else Router.introduce (.bot b) m.replyTo)
    (if m.replyTo = .nobody ∨ m.replyTo = b'.self then pure Help.text
      else Router.introduce (.bot b') m.replyTo)
  rw [twins.self]
  split
  · exact .of_inward (.pure _)
  · exact alike_introduce twins m.replyTo

theorem alike_answer (m : Message) (r : Request) :
    Act.Alike b b' (Router.answer m r) (Router.answer m r) := by
  rw [Router.answer]
  split
  · exact alike_answerMention twins m
  · refine .read fun w p q => ?_
    simp only [Bot.carries, World.reconnected]
    split
    · exact .of_inward (.pure _)
    · exact .of_inward (inward_reply _ r.args m.conversation)

theorem alike_route (m : Message) : Act.Alike b b' (Router.route m) (Router.route m) := by
  refine .read fun w p q => ?_
  refine Act.Alike.bind (.of_inward (.ofExcept _)) fun stamp => ?_
  refine Act.Alike.bind (.of_inward (Router.inward_note _)) fun _ => ?_
  split
  · exact .of_inward (.pure none)
  · exact (alike_answer twins m _).bind fun _ => .of_inward (.pure _)

/-! ## Timers -/

theorem alike_announceTimer (t : Timer) : Act.Alike b b' t.announce t.announce := by
  refine .read fun w p q => ?_
  exact (alike_announce twins t.conversation t.done).tryCatch fun _ => .say _

theorem alike_fireAt (now : Float) :
    Act.Alike b b' (Checker.fireAt now) (Checker.fireAt now) := by
  refine .read fun w p q => ?_
  refine Act.Alike.bind (.of_inward (.change (fun _ _ _ _ => rfl) fun _ => rfl)) fun _ => ?_
  exact (Act.Alike.forM _ _ fun t _ => alike_announceTimer twins t).bind fun _ =>
    .of_inward (.pure _)

theorem alike_look (n : Nat) : Act.Alike b b' (Checker.look n) (Checker.look n) := by
  induction n with
  | zero => exact .of_inward (.pure ())
  | succ n ih =>
      refine Act.Alike.bind (.of_inward (.change (fun _ _ _ _ => rfl) fun _ => rfl)) fun _ => ?_
      refine Act.Alike.bind (.read fun w p q => alike_fireAt twins w.clock) fun _ => ih

theorem alike_run (n : Nat) : Act.Alike b b' (Checker.run n) (Checker.run n) := by
  refine .read fun w p q => ?_
  show Act.Alike b b' (if w.checker then Checker.look n else Checker.pass _)
    (if w.checker then Checker.look n else Checker.pass _)
  cases w.checker with
  | true => exact alike_look twins n
  | false => exact .of_inward (.change (fun _ _ _ _ => rfl) fun _ => rfl)

end

end Sidekick
