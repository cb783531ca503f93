import Sidekick.Proofs.Calendar.Years
import Sidekick.Proofs.Number.Written
import Sidekick.Proofs.Session.Changes
import Sidekick.Proofs.Text.Quoting
import Sidekick.Proofs.Text.Search

namespace Sidekick
open Calendar Number Text

/-! ## Lines of entries -/

theorem newline_not_mem_of_written {s : String} (h : Written s) : '\n' ∉ s.toList :=
  fun mem => absurd (h.chars _ mem) (by decide)

theorem newline_not_mem_stampText (seconds : Int) : '\n' ∉ (stampText seconds).toList := by
  have year (n : Int) := newline_not_mem_of_written (written_toString_int n)
  have part (width n : Nat) := newline_not_mem_of_written (written_padded width n)
  simp only [stampText, String.toList_append, List.mem_append, not_or, year, part,
    not_false_eq_true, and_true, true_and]
  decide

namespace Router

theorem toList_requestLine (r : Request) : (requestLine (some r)).toList =
    "  -> command=".toList ++ (quoteChars r.command.toList ++
      (", args=".toList ++ (quoteChars r.args.toList ++ []))) := by
  have parts (a b c d : String) : (a ++ b ++ c ++ d).toList =
      a.toList ++ (b.toList ++ (c.toList ++ (d.toList ++ []))) := by simp
  have line := parts "  -> command=" (quote r.command) ", args=" (quote r.args)
  rw [toList_quote r.command, toList_quote r.args] at line
  exact line

theorem newline_not_mem_requestLine (r : Option Request) : '\n' ∉ (requestLine r).toList := by
  cases r with
  | none => decide
  | some r =>
      simp only [toList_requestLine, List.mem_append, not_or, newline_not_mem_quoteChars,
        List.not_mem_nil, not_false_eq_true, and_true, true_and]
      decide

theorem requestLine_none_ne (r : Request) :
    (requestLine none).toList ≠ (requestLine (some r)).toList := by
  have letter : (requestLine (some r)).toList[5]? = some 'c' := by
    rw [toList_requestLine]
    rfl
  intro same
  rw [← same] at letter
  exact absurd letter (by decide)

theorem requestLine_injective : Function.Injective requestLine := by
  intro r r' same
  have eq := congrArg String.toList same
  cases r with
  | none =>
      cases r' with
      | none => rfl
      | some r' => exact absurd eq (requestLine_none_ne r')
  | some r =>
      cases r' with
      | none => exact absurd eq.symm (requestLine_none_ne r)
      | some r' =>
          rw [toList_requestLine, toList_requestLine] at eq
          obtain ⟨command, eq⟩ := quoteChars_append_inj (List.append_cancel_left eq)
          obtain ⟨args, -⟩ := quoteChars_append_inj (List.append_cancel_left eq)
          exact congrArg some (congrArg₂ Request.mk (String.toList_inj.mp command)
            (String.toList_inj.mp args))

end Router

/-! ## Entries -/

namespace Log

def lines (s : List Char) : List (List Char) := (splitAt '\n' s).dropLast

def pairs {α : Type} : List α → List (α × α)
  | a :: b :: rest => (a, b) :: pairs rest
  | _ => []

def entries (log : List Char) : List (List Char × List Char) := pairs (lines log)

def IsEntry (log : List Char) : Prop := ∃ first second, log = first ++ '\n' :: (second ++ ['\n']) ∧
  '\n' ∉ first ∧ '\n' ∉ second ∧ "  -> ".toList <+: second

theorem lines_append {line : List Char} (plain : '\n' ∉ line) (rest : List Char) :
    lines (line ++ '\n' :: rest) = line :: lines rest := by
  have some : splitAt '\n' rest ≠ [] := by
    intro none
    have count := length_splitAt '\n' rest
    rw [none] at count
    cases count
  rw [lines, splitAt_append, splitAt_of_not_mem plain, List.singleton_append,
    List.dropLast_cons_of_ne_nil some, lines]

theorem entries_append {first second : List Char} (hf : '\n' ∉ first) (hs : '\n' ∉ second)
    (rest : List Char) :
    entries (first ++ '\n' :: (second ++ '\n' :: rest)) = (first, second) :: entries rest := by
  rw [entries, lines_append hf, lines_append hs, pairs, entries]

def heading (stamp : String) (m : Message) : List Char :=
  (stamp ++ " " ++ m.source ++ "  " ++ m.text).toList

theorem toList_entry (stamp : String) (m : Message) (r : Option Request) :
    (Router.entry stamp m r).toList =
      heading stamp m ++ '\n' :: ((Router.requestLine r).toList ++ ['\n']) := by
  simp [Router.entry, heading]

theorem newline_not_mem_heading {stamp : String} (plain : '\n' ∉ stamp.toList) (m : Message) :
    '\n' ∉ heading stamp m ↔ '\n' ∉ m.source.toList ∧ '\n' ∉ m.text.toList := by
  simp [heading, plain]

theorem entries_entry {stamp : String} {m : Message} (plain : '\n' ∉ heading stamp m)
    (r : Option Request) (rest : List Char) :
    entries ((Router.entry stamp m r).toList ++ rest) =
      (heading stamp m, (Router.requestLine r).toList) :: entries rest := by
  rw [← entries_append plain (Router.newline_not_mem_requestLine r), toList_entry]
  simp only [List.append_assoc, List.cons_append, List.nil_append]

theorem isEntry_entry_iff {stamp : String} (m : Message) (r : Option Request) :
    IsEntry (Router.entry stamp m r).toList ↔ '\n' ∉ heading stamp m := by
  rw [toList_entry]
  constructor
  · rintro ⟨first, second, eq, hf, hs, -⟩
    have count := congrArg (List.count '\n') eq
    simp only [List.count_append, List.count_cons_self, List.count_nil, List.count_eq_zero.mpr hf,
      List.count_eq_zero.mpr hs,
      List.count_eq_zero.mpr (Router.newline_not_mem_requestLine r)] at count
    exact List.count_eq_zero.mp (by omega)
  · intro plain
    refine ⟨_, _, rfl, plain, Router.newline_not_mem_requestLine r, ?_⟩
    cases r with
    | none => exact ⟨"ignored".toList, rfl⟩
    | some r =>
        rw [Router.toList_requestLine]
        exact ⟨"command=".toList ++ _, rfl⟩

end Log

/-! ## Messages of sessions -/

def Step.message? : Step → Option Message
  | receive m => some m
  | _ => none

theorem message?_eq_none {s : Step} (other : ¬ ∃ m, s = .receive m) : s.message? = none := by
  cases s with
  | receive m => exact absurd ⟨m, rfl⟩ other
  | _ => rfl

def received (w : World) (steps : List Step) : List (Message × Moment) :=
  (moments w steps).filterMap fun m => m.step.message?.map (·, m)

def sessionLog (w : World) (steps : List Step) : List Char :=
  (runSteps w steps).flatMap (·.world.log.toList)

def World.HasStamp (w : World) : Prop :=
  ∃ seconds, floor w.clock = .ok seconds ∧ IsStampable w.looksBack seconds

instance (w : World) : Decidable w.HasStamp :=
  match h : floor w.clock with
  | .ok seconds =>
    decidable_of_iff (IsStampable w.looksBack seconds) (by simp [World.HasStamp, h])
  | .error fault => isFalse (by simp [World.HasStamp, h])

structure Legible (m : Message) (w : World) : Prop where
  source : '\n' ∉ m.source.toList
  text : '\n' ∉ m.text.toList
  clock : w.HasStamp

instance (m : Message) (w : World) : Decidable (Legible m w) :=
  decidable_of_iff ('\n' ∉ m.source.toList ∧ '\n' ∉ m.text.toList ∧ w.HasStamp)
    ⟨fun h => ⟨h.1, h.2.1, h.2.2⟩, fun h => ⟨h.source, h.text, h.clock⟩⟩

/-- An entry with the stamp, the source and the text of a message, that tells its request. -/
structure Log.Shows (e : List Char × List Char) (m : Message) (w : World) : Prop where
  first : ∃ stamp, w.stamp = .ok stamp ∧ e.1 = heading stamp m
  second : ∀ r, e.2 = (Router.requestLine r).toList ↔ r = Request.parse? botName m.text

/-- Each message adds two lines to the log and nothing else adds any, so that the log reads back as
the messages of the session in their order, each with its own request. -/
structure Unforged (w : World) (steps : List Step) : Prop where
  entry : ∀ p ∈ received w steps, Log.IsEntry p.2.after.world.log.toList
  silent : ∀ m ∈ moments w steps, m.step.message? = none → m.after.world.log = ""
  reads : List.Forall₂ (fun e p => Log.Shows e p.1 p.2.before)
    (Log.entries (sessionLog w steps)) (received w steps)

section

variable {w : World} {s : Step} {m : Message}

theorem logOpen_report (s : Step) (w : World) : (s.run.report w).world.logOpen = w.logOpen := by
  rcases changes_step s w.unrecorded with changes | ⟨entry, changes⟩
  · exact changes.log_eq.2
  · exact changes.log_eq.2

theorem log_report (other : s.message? = none) (w : World) : (s.run.report w).world.log = "" := by
  have steady : s.run.Steady := steady_step fun m eq => by simp [eq, Step.message?] at other
  exact (steady w.unrecorded).log_eq.1

theorem log_report_receive (writable : w.logOpen = true) (m : Message) :
    ((Step.receive m).run.report w).world.log =
      match w.stamp with
      | .ok stamp => Router.entry stamp m (Request.parse? botName m.text)
      | .error _ => "" := by
  show ((Step.receive m).run.run w.unrecorded).2.log = _
  rw [world_receive]
  cases stamped : w.stamp with
  | error fault =>
      rw [Router.run_route_unstamped (w := w.unrecorded) stamped]
      rfl
  | ok stamp =>
      rw [(Router.changes_route (w := w.unrecorded) stamped).log_eq.1]
      simp [World.noted, World.unrecorded, writable]

theorem isEntry_log_iff (writable : w.logOpen = true) (m : Message) :
    Log.IsEntry ((Step.receive m).run.report w).world.log.toList ↔ Legible m w.unrecorded := by
  rw [log_report_receive writable]
  cases stamped : w.stamp with
  | error fault =>
      have unstampable : ¬ w.unrecorded.HasStamp := by
        rintro ⟨seconds, whole, stampable⟩
        cases stamped.symm.trans (stamp_of_isStampable whole stampable)
      refine iff_of_false ?_ fun legible => unstampable legible.clock
      rintro ⟨first, second, eq, -⟩
      simp at eq
  | ok text =>
      obtain ⟨seconds, whole, stampable, rfl⟩ := stamp_eq_ok_iff.mp stamped
      rw [Log.isEntry_entry_iff, Log.newline_not_mem_heading (newline_not_mem_stampText seconds)]
      exact ⟨fun h => ⟨h.1, h.2, seconds, whole, stampable⟩, fun h => ⟨h.source, h.text⟩⟩

theorem shows_heading {stamp : String} (stamped : w.stamp = .ok stamp) (m : Message) :
    Log.Shows (Log.heading stamp m,
      (Router.requestLine (Request.parse? botName m.text)).toList) m w.unrecorded where
  first := ⟨stamp, stamped, rfl⟩
  second r := by
    rw [String.toList_inj, Router.requestLine_injective.eq_iff]
    exact eq_comm

theorem entries_log {stamp : String} (writable : w.logOpen = true)
    (stamped : w.stamp = .ok stamp) (plain : '\n' ∉ Log.heading stamp m)
    (rest : List Char) :
    Log.entries (((Step.receive m).run.report w).world.log.toList ++ rest) =
      (Log.heading stamp m, (Router.requestLine (Request.parse? botName m.text)).toList) ::
        Log.entries rest := by
  rw [log_report_receive writable, stamped]
  exact Log.entries_entry plain _ rest

theorem exists_entry (writable : w.logOpen = true) (legible : Legible m w.unrecorded) :
    ∃ e, Log.Shows e m w.unrecorded ∧ ∀ rest,
      Log.entries (((Step.receive m).run.report w).world.log.toList ++ rest) =
        e :: Log.entries rest := by
  obtain ⟨seconds, whole, stampable⟩ := legible.clock
  have stamped := stamp_of_isStampable whole stampable
  have plain := (Log.newline_not_mem_heading (newline_not_mem_stampText seconds) m).mpr
    ⟨legible.source, legible.text⟩
  exact ⟨_, shows_heading stamped m, entries_log writable stamped plain⟩

theorem received_cons_receive (m : Message) (steps : List Step) (w : World) :
    received w (.receive m :: steps) =
      (m, (Step.receive m).moment w) :: received ((Step.receive m).run.report w).world steps := rfl

theorem received_cons_of_silent (silent : s.message? = none) (steps : List Step) (w : World) :
    received w (s :: steps) = received (s.run.report w).world steps := by
  rw [received, moments, List.filterMap_cons, Step.moment]
  simp only [silent, Option.map_none]
  rfl

theorem sessionLog_cons (s : Step) (steps : List Step) (w : World) : sessionLog w (s :: steps) =
    (s.run.report w).world.log.toList ++ sessionLog (s.run.report w).world steps := rfl

theorem unforged_nil (w : World) : Unforged w [] where
  entry _ mem := absurd mem List.not_mem_nil
  silent _ mem := absurd mem List.not_mem_nil
  reads := List.Forall₂.nil

theorem unforged_cons_of_silent (silent : s.message? = none) (steps : List Step) :
    Unforged w (s :: steps) ↔ Unforged (s.run.report w).world steps := by
  have log : sessionLog w (s :: steps) = sessionLog (s.run.report w).world steps := by
    rw [sessionLog_cons, log_report silent]
    rfl
  have received := received_cons_of_silent silent steps w
  constructor
  · intro h
    refine ⟨?_, fun m mem => h.silent m (List.mem_cons_of_mem _ mem), ?_⟩
    · rw [← received]
      exact h.entry
    · rw [← log, ← received]
      exact h.reads
  · intro h
    refine ⟨?_, List.forall_mem_cons.mpr ⟨fun _ => log_report silent w, h.silent⟩, ?_⟩
    · rw [received]
      exact h.entry
    · rw [log, received]
      exact h.reads

theorem unforged_cons_receive (writable : w.logOpen = true) (m : Message) (steps : List Step) :
    Unforged w (.receive m :: steps) ↔
      Legible m w.unrecorded ∧ Unforged ((Step.receive m).run.report w).world steps := by
  constructor
  · rintro ⟨entry, silent, reads⟩
    rw [received_cons_receive] at entry reads
    obtain ⟨first, later⟩ := List.forall_mem_cons.mp entry
    have legible := (isEntry_log_iff writable m).mp first
    obtain ⟨e, -, log⟩ := exists_entry writable legible
    rw [sessionLog_cons, log] at reads
    cases reads with
    | cons _ rest => exact ⟨legible, later, (List.forall_mem_cons.mp silent).2, rest⟩
  · rintro ⟨legible, rest⟩
    obtain ⟨e, shown, log⟩ := exists_entry writable legible
    refine ⟨?_, ?_, ?_⟩
    · rw [received_cons_receive]
      exact List.forall_mem_cons.mpr ⟨(isEntry_log_iff writable m).mpr legible, rest.entry⟩
    · exact List.forall_mem_cons.mpr ⟨nofun, rest.silent⟩
    · rw [received_cons_receive, sessionLog_cons, log]
      exact .cons shown rest.reads

end

theorem unforged_iff_legible {w : World} (writable : w.logOpen = true) (steps : List Step) :
    Unforged w steps ↔ ∀ p ∈ received w steps, Legible p.1 p.2.before := by
  induction steps generalizing w with
  | nil => exact iff_of_true (unforged_nil w) fun p mem => absurd mem List.not_mem_nil
  | cons s steps ih =>
      have rest := ih ((logOpen_report s w).trans writable)
      by_cases message : ∃ m, s = .receive m
      · obtain ⟨m, rfl⟩ := message
        rw [unforged_cons_receive writable, rest, received_cons_receive, List.forall_mem_cons]
        rfl
      · have silent : s.message? = none := message?_eq_none message
        rw [unforged_cons_of_silent silent, rest, received_cons_of_silent silent]

theorem unforged_of_legible_session :
    let w := { World.initial with clock := 1762851600 }
    let steps : List Step := [.register "calc" .calculate,
      .receive (.ofText "@Appy calc 1/0, args='2'"), .runChecker 2,
      .receive ⟨"hello\x0D  -> command='timer'", .nobody, .nobody, "[Telegram:Joe]"⟩]
    w.logOpen = true ∧ (∀ p ∈ received w steps, Legible p.1 p.2.before) ∧
      Unforged w steps := by
  intro w steps
  have legible : ∀ p ∈ received w steps, Legible p.1 p.2.before := by decide +kernel
  exact ⟨rfl, legible, (unforged_iff_legible rfl steps).mpr legible⟩

theorem not_unforged_line_feeds :
    let m : Message := ⟨"hi\n  -> ignored\n1970-01-01 00:00:00 [Telegram:Joe]  @Appy timer 1h\n" ++
      "  -> command='timer', args='1h'\nbye", .nobody, .nobody, "[console]"⟩
    Request.parse? botName m.text = none ∧
      ("1970-01-01 00:00:00 [Telegram:Joe]  @Appy timer 1h".toList,
        (Router.requestLine (some ⟨"timer", "1h"⟩)).toList) ∈
          Log.entries (sessionLog World.initial [.receive m]) ∧
      ¬ Unforged World.initial [.receive m] := by
  intro m
  have illegible : ¬ Legible m World.initial.unrecorded := by decide +kernel
  refine ⟨by decide +kernel, by decide +kernel, fun h => illegible ?_⟩
  exact ((unforged_cons_receive rfl m []).mp h).1

end Sidekick
