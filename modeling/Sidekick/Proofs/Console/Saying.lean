import Sidekick.Proofs.Calendar.Years
import Sidekick.Proofs.Console.Waiting
import Sidekick.Proofs.Session.Routing

namespace Sidekick.Console
open Number Calendar

/-! ## The answer -/

theorem exists_watched (w : World) :
    ∃ events, watched w = { w with checker := true, events := events } := by
  unfold watched
  split
  · next alive => exact ⟨w.events, by rw [← alive]⟩
  · exact ⟨_, rfl⟩

def listening (w : World) (commands : List (String × Command)) : World :=
  { w with commands := commands, transport := some .console, announcer := some .console }

theorem run_registerAll (w : World) : ∃ commands, commands.lookup "timer" = some .timer ∧
    registerAll.run w = (.ok (), { w with commands := commands }) :=
  ⟨_, rfl, rfl⟩

def typed (text : String) : Message :=
  { Message.ofText text with conversation := .name "console" }

theorem run_answer (text : String) (w : World) :
    ∃ commands, commands.lookup "timer" = some .timer ∧
      (∀ fault after, (Router.route (typed text)).run (listening w commands) =
          (.error fault, after) → (answer text).run w = (.error fault, after)) ∧
      ∀ reply after, (Router.route (typed text)).run (listening w commands) =
          (.ok (some reply), after) → (answer text).run w =
            (.ok true, { after with printed := after.printed ++ reply ++ "\n" }) := by
  obtain ⟨commands, known, registered⟩ := run_registerAll w
  have connected : (connect .console).run { w with commands := commands } =
    (.ok (), listening w commands) := rfl
  refine ⟨commands, known, fun fault after routed => ?_, fun reply after routed => ?_⟩
  · rw [answer, Act.run_bind, registered]
    simp only [Act.run_bind, connected]
    rw [← typed, routed]
  · rw [answer, Act.run_bind, registered]
    simp only [Act.run_bind, connected]
    rw [← typed, routed]
    rfl

section

variable {w : World} {m : Message} {r : Request} {spec : Countdown} {delay : Float} {stamp : String}

theorem run_answer_timer (word : Text.lower r.command.toList = "timer".toList)
    (asked : Duration.parse r.args.toList = .ok (some spec))
    (delayed : Store.seconds? spec.millis = some delay)
    (known : w.commands.lookup "timer" = some .timer) :
    (Router.answer m r).run w = (.ok spec.acknowledgement, { watched w with store :=
      ⟨w.store.timers ++ [⟨w.store.next, w.clock + delay, m.conversation, spec⟩],
        w.store.next + 1⟩ }) := by
  have named : r.word = "timer" := by rw [Request.word, word]; rfl
  have notBare : r.word ≠ "" := by rw [named]; decide
  rw [Router.run_answer_named notBare, named, known]
  simp only [Command.reply, run_startTimer, asked, Store.schedule, delayed]
  rfl

theorem run_route_timer (stamped : w.stamp = .ok stamp)
    (request : Request.parse? botName m.text = some r)
    (word : Text.lower r.command.toList = "timer".toList)
    (asked : Duration.parse r.args.toList = .ok (some spec))
    (delayed : Store.seconds? spec.millis = some delay)
    (known : w.commands.lookup "timer" = some .timer) :
    ∃ log events, (Router.route m).run w = (.ok (some spec.acknowledgement), { w with
      checker := true
      events := events
      log := log
      store := ⟨w.store.timers ++ [⟨w.store.next, w.clock + delay, m.conversation, spec⟩],
        w.store.next + 1⟩ }) := by
  let v := w.noted (Router.entry stamp m (some r))
  obtain ⟨events, watched⟩ := exists_watched v
  have answered := @run_answer_timer v m r spec delay word asked delayed known
  refine ⟨v.log, events, ?_⟩
  rw [Router.run_route, stamped]
  simp only [request, answered, watched, v]
  rfl

end

structure Answered (w v : World) (spec : Countdown) (due : Float) : Prop where
  timers : v.store.timers = [⟨1, due, .name "console", spec⟩]
  checker : v.checker = true
  announcer : v.announcer = some .console
  clock : v.clock = w.clock
  sleeps : v.sleeps = w.sleeps
  patience : v.patience = w.patience
  printed : v.printed = w.printed ++ spec.acknowledgement ++ "\n"

section

variable {w : World} {text : String}

theorem run_converse_unstamped {fault : Fault}
    (unstamped : w.stamp = .error fault) : ∃ after,
      (converse text).run w = (.error fault, after) ∧ after.sleeps = w.sleeps ∧
        after.store = w.store ∧ after.printed = w.printed := by
  obtain ⟨commands, -, failed, -⟩ := run_answer text w
  have unrouted : (Router.route (typed text)).run (listening w commands) =
      (.error fault, listening w commands) := by
    have same : (listening w commands).stamp = w.stamp := rfl
    rw [Router.run_route, same, unstamped]
  have answered := failed fault (listening w commands) unrouted
  refine ⟨listening w commands, ?_, rfl, rfl, rfl⟩
  rw [converse, Act.run_bind, answered]

theorem run_converse_answered {v : World} (answered : (answer text).run w = (.ok true, v)) :
    (converse text).run w = (waitTimers (enoughSleeps v)).run v := by
  rw [converse, Act.run_bind, answered]
  simp only [if_true, Act.run_bind, Act.run_get]

theorem run_converse_timer {r : Request} {spec : Countdown} {delay : Float} {stamp : String}
    (empty : w.store = .empty) (stamped : w.stamp = .ok stamp)
    (request : Request.parse? botName text = some r)
    (word : Text.lower r.command.toList = "timer".toList)
    (asked : Duration.parse r.args.toList = .ok (some spec))
    (delayed : Store.seconds? spec.millis = some delay) :
    ∃ v, Answered w v spec (w.clock + delay) ∧
      (converse text).run w = (waitTimers (enoughSleeps v)).run v := by
  obtain ⟨commands, known, -, replied⟩ := run_answer text w
  obtain ⟨log, events, routed⟩ :=
    @run_route_timer (listening w commands) (typed text) r spec delay stamp stamped request word
      asked delayed known
  have answered := replied _ _ routed
  refine ⟨_, ?_, run_converse_answered answered⟩
  have timers : (listening w commands).store.timers = [] := congrArg Store.timers empty
  have next : (listening w commands).store.next = 1 := congrArg Store.next empty
  exact ⟨by rw [timers, next]; rfl, rfl, rfl, rfl, rfl, rfl, rfl⟩

end

/-! ## The wait -/

theorem exists_seconds {d : Nat} (small : d < 2 ^ 53) :
    ∃ delay, Store.seconds? (1000 * d) = some delay ∧ IsWhole delay d := by
  have whole := @isWhole_nearestQuotient 1000 d (by decide) small
  have millis : ((1000 * d : Nat) : Int) = 1000 * d := Int.natCast_mul 1000 d
  rw [millis] at whole
  refine ⟨_, ?_, whole⟩
  obtain ⟨b, hb, -⟩ := whole
  rw [Store.seconds?]
  simp only [hb]

theorem magnitudeUp_of_isWhole {x : Float} {n : Nat} (h : IsWhole x n) : magnitudeUp x = n + 1 := by
  obtain ⟨b, hb, -, part⟩ := h
  rw [magnitudeUp, hb, ← (signed_eq_natCast.mp part).1]

def lines (ls : List String) : String := ls.foldl (fun printed line => printed ++ line ++ "\n") ""

theorem console_done (id : Nat) (due : Float) (spec : Countdown) :
    "[" ++ (Address.name "console").text ++ "] " ++
        Timer.done ⟨id, due, .name "console", spec⟩ =
      "[console] ⏰ Timer done: " ++ spec.describe ++ "!" := by
  have opening : "[" ++ (Address.name "console").text ++ "] " ++ "⏰ Timer done: " =
    "[console] ⏰ Timer done: " := by decide
  show _ ++ ("⏰ Timer done: " ++ spec.describe ++ "!") = _
  rw [← String.append_assoc, ← String.append_assoc, opening]

/-- What becomes of a run of the console that starts a timer of `d` seconds at the second `c`. -/
structure WaitsFor (w : World) (act : Act Unit) (spec : Countdown) (c d : Nat) : Prop where
  finished : c < firstUnwritable → (∀ k, w.patience = some k → max 1 (2 * d) ≤ k) →
    ∃ after, act.run w = (.ok (), after) ∧ after.sleeps = max 1 (2 * d) ∧
      after.store.timers = [] ∧ after.printed = lines
        ["⏳ Timer started for " ++ spec.describe ++ ".", "[console] *knock*",
          "[console] ⏰ Timer done: " ++ spec.describe ++ "!"]
  interrupted : c < firstUnwritable → ∀ k, w.patience = some k → k < max 1 (2 * d) →
    ∃ after t, act.run w = (.ok (), after) ∧ after.sleeps = k ∧ after.store.timers = [t] ∧
      t.countdown = spec ∧ t.conversation = .name "console" ∧ IsWhole t.due (c + d) ∧
        after.printed = lines ["⏳ Timer started for " ++ spec.describe ++ ".", "\nTimer abandoned."]
  /-- From the year 10000 on there is no stamp for the log, and nothing is answered. -/
  unstamped : firstUnwritable ≤ c → ∃ after,
    act.run w = (.error (.yearOutOfRange (dateOf c).year), after) ∧ after.sleeps = 0 ∧
      after.store.timers = [] ∧ after.printed = ""

theorem Waiting.enoughSleeps {v : World} {t : Timer} {m d : Nat} (h : Waiting v t m (m + 2 * d))
    (small : m + 2 * d < 2 ^ 53) (unhurried : v.patience = none) :
    enoughSleeps v = 4 * (d + 1) + 4 := by
  have left : IsHalves (t.due - v.clock) (2 * d) := by
    have difference := h.due.sub h.clock (Nat.le_add_right m _) small
    rwa [Nat.add_sub_cancel_left] at difference
  rw [Console.enoughSleeps, unhurried, h.timers]
  simp only [List.foldl_cons, List.foldl_nil, magnitudeUp_of_isWhole (isHalves_iff_isWhole.mp left)]
  omega

theorem enoughSleeps_patience {v : World} {k : Nat} (h : v.patience = some k) :
    enoughSleeps v = k - v.sleeps + 1 := by
  rw [enoughSleeps, h]

theorem naps_mul_two (c d : Nat) : naps (2 * c) (2 * c + 2 * d) = max 1 (2 * d) := by
  unfold naps
  omega

section

variable {w v : World} {spec : Countdown} {delay : Float} {c d : Nat}

theorem Answered.waiting (h : Answered w v spec (w.clock + delay)) (clock : IsWhole w.clock c)
    (delayed : IsWhole delay d) (range : c + d < 2 ^ 52) :
    Waiting v ⟨1, w.clock + delay, .name "console", spec⟩ (2 * c) (2 * c + 2 * d) where
  timers := h.timers
  checker := h.checker
  announcer := h.announcer
  clock := by
    rw [h.clock]
    exact isHalves_iff_isWhole.mpr clock
  due := (isHalves_iff_isWhole.mpr clock).add (isHalves_iff_isWhole.mpr delayed) (by omega)

theorem Answered.run_waitTimers (h : Answered w v spec (w.clock + delay))
    (clock : IsWhole w.clock c) (delayed : IsWhole delay d) (range : c + d < 2 ^ 52)
    (awake : v.sleeps = 0) (patient : ∀ k, v.patience = some k → max 1 (2 * d) ≤ k) :
    ∃ after, (waitTimers (enoughSleeps v)).run v = (.ok (), after) ∧
      after.sleeps = max 1 (2 * d) ∧ after.store.timers = [] ∧
        after.printed = v.printed ++ "[console] *knock*" ++ "\n" ++
          ("[console] ⏰ Timer done: " ++ spec.describe ++ "!") ++ "\n" := by
  have waiting := h.waiting clock delayed range
  have enough : naps (2 * c) (2 * c + 2 * d) ≤ enoughSleeps v := by
    rw [naps_mul_two]
    cases patience : v.patience with
    | none =>
        rw [waiting.enoughSleeps (by omega) patience]
        omega
    | some k =>
        have := patient k patience
        rw [enoughSleeps_patience patience]
        omega
  have patient' (k : Nat) (hk : v.patience = some k) :
      v.sleeps + naps (2 * c) (2 * c + 2 * d) ≤ k := by
    rw [naps_mul_two, awake, Nat.zero_add]
    exact patient k hk
  have waited := Console.run_waitTimers waiting (Nat.le_add_right _ _) (by omega) enough patient'
  rw [announced_console (by exact h.announcer), console_done, naps_mul_two] at waited
  refine ⟨_, waited, ?_, rfl, rfl⟩
  show v.sleeps + max 1 (2 * d) = _
  rw [awake, Nat.zero_add]

theorem Answered.run_waitTimers_interrupted (h : Answered w v spec (w.clock + delay))
    (clock : IsWhole w.clock c) (delayed : IsWhole delay d) (range : c + d < 2 ^ 52)
    (awake : v.sleeps = 0) {k : Nat} (patience : v.patience = some k) (less : k < max 1 (2 * d)) :
    ∃ after, (waitTimers (enoughSleeps v)).run v = (.ok (), after) ∧ after.sleeps = k ∧
      after.store.timers = v.store.timers ∧
        after.printed = v.printed ++ "\nTimer abandoned." ++ "\n" := by
  have waiting := h.waiting clock delayed range
  have early : k < v.sleeps + naps (2 * c) (2 * c + 2 * d) := by
    rw [naps_mul_two, awake, Nat.zero_add]
    exact less
  have enough : k - v.sleeps < enoughSleeps v := by
    rw [enoughSleeps_patience patience]
    exact Nat.lt_succ_self _
  have waited := Console.run_waitTimers_interrupted waiting (by omega) patience (by omega) early
    enough
  refine ⟨_, waited, ?_, rfl, rfl⟩
  show v.sleeps + (k - v.sleeps) = _
  omega

end

theorem waitsFor_of_say {w : World} {first : String} {rest : List String} {r : Request}
    {spec : Countdown} {c d : Nat} (empty : w.store = .empty) (sleeps : w.sleeps = 0)
    (printed : w.printed = "")
    (request : Request.parse? botName (" ".intercalate (first :: rest)) = some r)
    (word : Text.lower r.command.toList = "timer".toList)
    (asked : Duration.parse r.args.toList = .ok (some spec)) (seconds : spec.millis = 1000 * d)
    (clock : IsWhole w.clock c) (range : c + d < 2 ^ 52) (service : Option Telegram.Service) :
    WaitsFor w (run ("-say" :: first :: rest) service) spec c d := by
  obtain ⟨delay, delayed, whole⟩ := @exists_seconds d (by omega)
  rw [← seconds] at delayed
  have stamped : w.stamp = _ := stamp_of_isWhole w.looksBack clock
  rw [run]
  constructor
  · intro early patient
    rw [if_pos early] at stamped
    obtain ⟨v, answered, converse⟩ := run_converse_timer empty stamped request word asked delayed
    rw [← answered.patience] at patient
    obtain ⟨after, waited, slept, none, told⟩ :=
      answered.run_waitTimers clock whole range (answered.sleeps.trans sleeps) patient
    refine ⟨after, converse.trans waited, slept, none, ?_⟩
    rw [told, answered.printed, printed]
    rfl
  · intro early k patience less
    rw [if_pos early] at stamped
    obtain ⟨v, answered, converse⟩ := run_converse_timer empty stamped request word asked delayed
    rw [← answered.patience] at patience
    obtain ⟨after, waited, slept, still, told⟩ := answered.run_waitTimers_interrupted clock whole
      range (answered.sleeps.trans sleeps) patience less
    have due : IsHalves (w.clock + delay) (2 * (c + d)) := by
      rw [Nat.mul_add]
      exact (answered.waiting clock whole range).due
    refine ⟨after, _, converse.trans waited, slept, still.trans answered.timers, rfl, rfl,
      isHalves_iff_isWhole.mp due, ?_⟩
    rw [told, answered.printed, printed]
    rfl
  · intro late
    rw [if_neg (Nat.not_lt.mpr late)] at stamped
    obtain ⟨after, converse, still, store, nothing⟩ :=
      @run_converse_unstamped w (" ".intercalate (first :: rest)) _ stamped
    exact ⟨after, converse, still.trans sleeps, by rw [store, empty]; rfl, nothing.trans printed⟩

theorem waitsFor_of_say_tea :
    let w := { World.initial with clock := 10, patience := some 3 }
    let text := "@Appy⏰ TIMER 2s  tea"
    let spec : Countdown := ⟨2000, "2 seconds", "tea"⟩
    w.store = .empty ∧ w.sleeps = 0 ∧ w.printed = "" ∧
      Request.parse? botName (" ".intercalate [text]) = some ⟨"TIMER", "2s  tea"⟩ ∧
      Text.lower "TIMER".toList = "timer".toList ∧
      Duration.parse "2s  tea".toList = .ok (some spec) ∧ spec.millis = 1000 * (2 : Nat) ∧
      IsWhole w.clock 10 ∧ 10 + 2 < 2 ^ 52 ∧ WaitsFor w (run ["-say", text] none) spec 10 2 := by
  have request : Request.parse? botName (" ".intercalate ["@Appy⏰ TIMER 2s  tea"]) =
    some ⟨"TIMER", "2s  tea"⟩ := by decide +kernel
  have word : Text.lower "TIMER".toList = "timer".toList := by decide +kernel
  have asked : Duration.parse "2s  tea".toList = .ok (some ⟨2000, "2 seconds", "tea"⟩) := rfl
  have clock : IsWhole 10 10 := ⟨_, rfl, rfl, rfl⟩
  exact ⟨rfl, rfl, rfl, request, word, asked, rfl, clock, by decide,
    waitsFor_of_say rfl rfl rfl request word asked rfl clock (by decide) none⟩

theorem not_finished_year_10000 :
    let w := { World.initial with clock := 253402300800, logOpen := false }
    IsWhole w.clock 253402300800 ∧ 253402300800 + 0 < 2 ^ 52 ∧ w.patience = none ∧
      Request.parse? botName (" ".intercalate ["@Appy timer 0s"]) = some ⟨"timer", "0s"⟩ ∧
      Text.lower "timer".toList = "timer".toList ∧
      Duration.parse "0s".toList = .ok (some ⟨1000 * (0 : Nat), "0 seconds", ""⟩) ∧
      ¬ ∃ after, (run ["-say", "@Appy timer 0s"] none).run w = (.ok (), after) := by
  have failed : ((run ["-say", "@Appy timer 0s"] none).run
      { World.initial with clock := 253402300800, logOpen := false }).1.isOk = false := by
    decide +kernel
  refine ⟨⟨_, rfl, rfl, rfl⟩, by decide, rfl, by decide +kernel, by decide +kernel, rfl, ?_⟩
  rintro ⟨after, finished⟩
  rw [finished] at failed
  cases failed

end Sidekick.Console
