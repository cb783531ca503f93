import Sidekick.Router
import Sidekick.Proofs.Session.Inward
import Sidekick.Proofs.Timer.History

namespace Sidekick

def World.noted (w : World) (entry : String) : World :=
  { w with log := if w.logOpen then w.log ++ entry else w.log }

def Request.word (r : Request) : String := String.ofList (Text.lower r.command.toList)

/-- A bare mention in reply to somebody. -/
def Message.opens (m : Message) : Prop :=
  m.replyTo ≠ .nobody ∧ ∃ r, Request.parse? botName m.text = some r ∧ r.word = ""

namespace Router

theorem run_note (entry : String) (w : World) : (note entry).run w = (.ok (), w.noted entry) := by
  rw [note, Act.run_modify, World.noted]
  split <;> rfl

theorem inward_note (entry : String) : (note entry).Inward where
  frame w := ⟨"", fun t a p => by rw [run_note, run_note, String.append_empty]; rfl⟩
  quiet w := .of_events (by rw [run_note]; rfl)

theorem run_route (m : Message) (w : World) : (route m).run w =
    match w.stamp with
    | .error fault => (.error fault, w)
    | .ok stamp =>
      let v := w.noted (entry stamp m (Request.parse? botName m.text))
      match Request.parse? botName m.text with
      | none => (.ok none, v)
      | some r => (((answer m r).run v).1.map some, ((answer m r).run v).2) := by
  rw [route, Act.run_bind, Act.run_get]
  simp only [Act.run_bind, Act.run_ofExcept]
  cases w.stamp with
  | error fault => rfl
  | ok stamp =>
      simp only [run_note]
      cases Request.parse? botName m.text with
      | none => rfl
      | some r =>
          simp only [Act.run_bind]
          rcases (answer m r).run _ with ⟨_ | _, _⟩ <;> rfl

variable {m : Message} {r : Request} {w : World}

theorem answer_bare (bare : r.word = "") : answer m r = answerMention m := by
  have empty : r.word.isEmpty = true := by rw [bare]; rfl
  rw [answer, ← Request.word, if_pos empty]

theorem run_answer_named (named : r.word ≠ "") : (answer m r).run w =
    match w.commands.lookup r.word with
    | none => (.ok unknownCommand, w)
    | some c => (c.reply r.args m.conversation).run w := by
  have some : ¬ r.word.isEmpty = true := fun empty => named (String.isEmpty_iff.mp empty)
  rw [answer, ← Request.word, if_neg some, Act.run_bind, Act.run_get]
  cases found : w.commands.lookup r.word with
  | none => simp only [found]; rfl
  | some c => simp only [found]

theorem run_answerMention : (answerMention m).run w =
    match w.transport with
    | none => (.ok Help.text, w)
    | some t =>
      if m.replyTo = .nobody ∨ m.replyTo = t.self then (.ok Help.text, w)
      else (introduce t m.replyTo).run w := by
  rw [answerMention, Act.run_bind, Act.run_get]
  cases found : w.transport with
  | none => simp only [found]; rfl
  | some t =>
      simp only [found]
      split <;> rfl

section

variable {t : Transport} (other : ∀ r, t ≠ .recorder r) (participant : Address)

include other

theorem inward_opening : Act.Inward (tryCatch (some <$> t.create participant) fun
    | .notOpened reason => do
      say ("  [router] no direct conversation with " ++ participant.text ++ ": " ++ reason)
      return none
    | fault => throw fault) := by
  refine ((inward_create other participant).map some).tryCatch fun fault => ?_
  split
  · exact (Act.Inward.say _).bind fun _ => .pure none
  · exact .throw _

theorem inward_introduce : (introduce t participant).Inward := by
  refine (inward_opening other participant).bind fun opened => ?_
  cases opened with
  | none => exact .pure _
  | some conversation =>
      refine (inward_knock other conversation).bind fun _ => ?_
      exact (inward_send other conversation greeting).bind fun _ => .pure _

end

def introduction (r : Recorder) (calls : Nat) (participant : Address) : List Event :=
  .creating participant ::
    if r.opens calls participant then
      [.knocked (r.opened calls participant), .texted (r.opened calls participant) greeting]
    else []

theorem run_create (r : Recorder) (participant : Address) (w : World) :
    ((Transport.recorder r).create participant).run w =
      (if r.opens w.calls participant then .ok (r.opened w.calls participant)
        else .error (.notOpened "nope"),
        { w with events := w.events ++ [.creating participant], calls := w.calls + 1 }) := by
  have asked : (call (.creating participant)).run w = (.ok w.calls,
      { w with events := w.events ++ [.creating participant], calls := w.calls + 1 }) := rfl
  rw [Transport.create, Act.run_bind, asked]
  cases opens : r.opens w.calls participant with
  | false => simp only [opens]; rfl
  | true => simp only [opens]; rfl

theorem events_introduce (r : Recorder) (participant : Address) (w : World) :
    ((introduce (.recorder r) participant).run w).2.events =
      w.events ++ introduction r w.calls participant := by
  rw [introduce, introduction, Act.run_bind, Act.run_tryCatch, ← bind_pure_comp, Act.run_bind,
    run_create]
  cases r.opens w.calls participant with
  | false => rfl
  | true =>
      simp only [if_true, Act.run_pure, Act.run_bind, run_knock_recorder, run_send_recorder]
      cases r.delivers (w.calls + 1) (r.opened w.calls participant) <;> simp

def Introduced (m : Message) (w v : World) : Prop :=
  ∃ r, w.transport = some (.recorder r) ∧
    v.events = w.events ++ introduction r w.calls m.replyTo

theorem quiet_or_introduced_answerMention (m : Message) (w : World) :
    w.QuietUntil ((answerMention m).run w).2 ∨
      m.replyTo ≠ .nobody ∧ Introduced m w ((answerMention m).run w).2 := by
  rw [run_answerMention]
  cases found : w.transport with
  | none => exact .inl (.of_events rfl)
  | some t =>
      by_cases helped : m.replyTo = .nobody ∨ m.replyTo = t.self
      · simp only [if_pos helped]
        exact .inl (.of_events rfl)
      · simp only [if_neg helped]
        by_cases recorder : ∃ r, t = .recorder r
        · obtain ⟨r, rfl⟩ := recorder
          exact .inr ⟨fun nobody => helped (.inl nobody), r, found, events_introduce r m.replyTo w⟩
        · exact .inl ((inward_introduce (fun r h => recorder ⟨r, h⟩) m.replyTo).quiet w)

theorem quiet_or_introduced_answer (m : Message) (r : Request) (w : World) :
    w.QuietUntil ((answer m r).run w).2 ∨
      r.word = "" ∧ m.replyTo ≠ .nobody ∧ Introduced m w ((answer m r).run w).2 := by
  by_cases bare : r.word = ""
  · rw [answer_bare bare]
    exact (quiet_or_introduced_answerMention m w).imp_right fun opened => ⟨bare, opened⟩
  · rw [run_answer_named bare]
    cases w.commands.lookup r.word with
    | none => exact .inl (.of_events rfl)
    | some c => exact .inl ((inward_reply c r.args m.conversation).quiet w)

theorem quiet_or_introduced_route (m : Message) (w : World) :
    w.QuietUntil ((route m).run w).2 ∨ m.opens ∧ Introduced m w ((route m).run w).2 := by
  rw [run_route]
  cases w.stamp with
  | error fault => exact .inl (.of_events rfl)
  | ok stamp =>
      cases request : Request.parse? botName m.text with
      | none => exact .inl (.of_events rfl)
      | some r =>
          refine (quiet_or_introduced_answer m r _).imp_right ?_
          rintro ⟨bare, somebody, opened⟩
          exact ⟨⟨somebody, r, request, bare⟩, opened⟩

end Router

end Sidekick
