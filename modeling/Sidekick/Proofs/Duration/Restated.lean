import Sidekick.Proofs.Number.Digits
import Sidekick.Proofs.Timer.Starting

namespace Sidekick.Duration
open Text Number

def nameFor (n : Nat) (unit : TimeUnit) : List Char :=
  (unit.word ++ if n = 1 then "" else "s").toList

def shown (n : Nat) (unit : TimeUnit) (label : List Char) : Parts :=
  ⟨Nat.toDigits 10 n, [' '], nameFor n unit, if label = [] then [] else [' '], label⟩

variable {n : Nat} {unit : TimeUnit} {label s : List Char} {p : Parts}

theorem known_nameFor (n : Nat) (unit : TimeUnit) :
    ∃ name ∈ unit.names, lower (nameFor n unit) = name.toList := by
  have all : ∀ ending ∈ ["", "s"], ∃ name ∈ unit.names,
      lower (unit.word ++ ending).toList = name.toList := by
    cases unit <;> decide +kernel
  unfold nameFor
  split
  · exact all "" (by decide)
  · exact all "s" (by decide)

theorem isUnitName_nameFor (n : Nat) (unit : TimeUnit) : IsUnitName (nameFor n unit) := by
  have all : ∀ ending ∈ ["", "s"], IsUnitName (unit.word ++ ending).toList := by
    intro ending mem
    rw [isUnitName_iff]
    revert ending
    cases unit <;> decide +kernel
  unfold nameFor
  split
  · exact all "" (by decide)
  · exact all "s" (by decide)

theorem toList_describe (n : Nat) (unit : TimeUnit) :
    (describe n unit).toList = Nat.toDigits 10 n ++ ([' '] ++ nameFor n unit) := by
  rw [describe, Nat.toString_eq_ofList_toDigits, String.append_assoc, String.append_assoc,
    String.toList_append, String.toList_ofList, String.toList_append]
  rfl

theorem Asks.trimmed (asks : Asks p) (label : Trimmed p.label) : Trimmed p.text := by
  constructor
  · obtain ⟨c, digits, eq⟩ := List.exists_cons_of_ne_nil asks.number
    have digit := asks.digits
    rw [eq] at digit
    rw [Parts.text, eq]
    refine stops_cons ?_ _
    cases blank : isBlank c with
    | false => rfl
    | true => exact (digit c List.mem_cons_self).symm.trans (not_isDecimalDigit_of_isBlank blank)
  · rcases asks.label with ⟨gap, none⟩ | ⟨-, some, -⟩
    · rw [Parts.text, gap, none, List.append_nil, List.append_nil, ← List.append_assoc,
        stops_reverse_append asks.name.isWord.ne_nil]
      exact asks.name.isWord.trimmed.last
    · rw [Parts.text, ← List.append_assoc, ← List.append_assoc, ← List.append_assoc,
        stops_reverse_append some]
      exact label.last

theorem asks_shown (trimmed : Trimmed label) : Asks (shown n unit label) where
  number := Nat.toDigits_ne_nil
  digits c hc := isDecimalDigit_of_isDigit (allDigits_toDigits n c hc)
  gap := by simp only [shown]; decide
  name := isUnitName_nameFor n unit
  label := by
    by_cases none : label = []
    · exact .inl ⟨if_pos none, none⟩
    · refine .inr ⟨?_, none, trimmed.first⟩
      simp only [shown, if_neg none]
      decide

theorem trim_shown (trimmed : Trimmed label) :
    trim ((describe n unit).toList ++ ' ' :: label) = (shown n unit label).text := by
  refine trim_of_around ?_ ((asks_shown trimmed).trimmed trimmed)
  rw [toList_describe]
  by_cases none : label = []
  · refine ⟨[], [' '], by decide, by decide, ?_⟩
    simp [shown, Parts.text, none]
  · refine ⟨[], [], by decide, by decide, ?_⟩
    simp [shown, Parts.text, none]

theorem trim_words (n : Nat) (unit : TimeUnit) :
    trim (describe n unit).toList = (shown n unit []).text := by
  refine trim_of_around ⟨[], [], by decide, by decide, ?_⟩
    ((asks_shown trimmed_nil).trimmed trimmed_nil)
  simp [toList_describe, shown, Parts.text]

theorem reads_shown (short : (Nat.toDigits 10 n).length ≤ maxDigits) :
    Reads (shown n unit label) unit ⟨n * unit.millis, describe n unit, String.ofList label⟩ where
  short := short
  known := known_nameFor n unit
  millis := by simp only [shown, decimalValue_toDigits]
  words := by simp only [shown, decimalValue_toDigits, describe]
  label := rfl

theorem length_toDigits_decimalValue {digits : List Char} (short : digits.length ≤ maxDigits) :
    (Nat.toDigits 10 (decimalValue digits)).length ≤ maxDigits := by
  rw [Nat.length_toDigits_le_iff (by decide) (by decide)]
  exact (decimalValue_lt digits).trans_le (Nat.pow_le_pow_right (by decide) short)

/-- The words of a countdown ask for it, with its label or without one. -/
structure Restates (c : Countdown) : Prop where
  labelled : parse (c.words ++ " " ++ c.label).toList = .ok (some c)
  unlabelled : parse c.words.toList = .ok (some { c with label := "" })

-- The number has no more digits now than the text it was read from.
theorem restates_of_ok {c : Countdown} (h : parse s = .ok (some c)) : Restates c := by
  obtain ⟨p, unit, asks, text, reads⟩ := parse_eq_ok_some_iff.mp h
  have trimmed : Trimmed p.label := asks.trimmed_label (text ▸ trimmed_trim s)
  have short := length_toDigits_decimalValue reads.short
  have words : c.words = describe (decimalValue p.digits) unit := reads.words
  obtain rfl : c = ⟨decimalValue p.digits * unit.millis, describe (decimalValue p.digits) unit,
      String.ofList p.label⟩ := by
    cases c
    simp only [Countdown.mk.injEq]
    exact ⟨reads.millis, words, reads.label⟩
  constructor
  · refine parse_eq_ok_some_iff.mpr ⟨_, unit, asks_shown trimmed, ?_, reads_shown short⟩
    rw [← trim_shown trimmed]
    simp
  · exact parse_eq_ok_some_iff.mpr
      ⟨_, unit, asks_shown trimmed_nil, trim_words _ _, reads_shown short⟩

structure Tells (c : Countdown) (w : World) (reply : String) (v : World) : Prop where
  reply : reply = "⏳ Timer started for " ++ c.describe ++ "."
  timer : ∃ t delay, v.store.timers = w.store.timers ++ [t] ∧ t.countdown = c ∧
    Store.seconds? c.millis = some delay ∧ t.due = w.clock + delay ∧
    t.done = "⏰ Timer done: " ++ c.describe ++ "!"

theorem describe_eq (c : Countdown) :
    c.describe = c.words ++ if c.label = "" then "" else " — " ++ c.label := by
  rw [Countdown.describe]
  by_cases none : c.label = ""
  · simp [none]
  · simp [none, String.append_assoc]

theorem tells_of_run {args reply : String} {c : Countdown} {conversation : Address} {w v : World}
    (h : parse args.toList = .ok (some c))
    (run : (startTimer args conversation).run w = (.ok reply, v)) : Tells c w reply v := by
  rw [run_startTimer, h] at run
  cases seconds : Store.seconds? c.millis with
  | none =>
      simp only [Store.schedule, seconds] at run
      cases run
  | some delay =>
      simp only [Store.schedule, seconds] at run
      cases run
      exact ⟨rfl, _, delay, rfl, rfl, seconds, rfl, rfl⟩

theorem restates_of_parse {args : String} {c : Countdown}
    (h : parse args.toList = .ok (some c)) :
    Restates c ∧ c.describe = c.words ++ (if c.label = "" then "" else " — " ++ c.label) ∧
      ∀ conversation w reply v, (startTimer args conversation).run w = (.ok reply, v) →
        Tells c w reply v :=
  ⟨restates_of_ok h, describe_eq c, fun _ _ _ _ run => tells_of_run h run⟩

theorem restates_of_parse_digits :
    let c : Countdown := ⟨120000, "2 minutes", "3 s\n\tnow"⟩
    let args := " \u0660\u0662MINS\u00A03 s\n\tnow "
    parse args.toList = .ok (some c) ∧ parse "2 minutes 3 s\n\tnow".toList = .ok (some c) ∧
      ((startTimer args (.name "a")).run .initial).1 =
        .ok "⏳ Timer started for 2 minutes — 3 s\n\tnow." := by
  intro c args
  have parsed : parse args.toList = .ok (some c) := by decide +kernel
  have told := restates_of_parse parsed
  have run : (startTimer args (.name "a")).run .initial =
      (.ok c.acknowledgement, ((startTimer args (.name "a")).run .initial).2) := by
    obtain ⟨delay, seconds⟩ : ∃ delay, Store.seconds? c.millis = some delay :=
      Option.isSome_iff_exists.mp (by decide +kernel)
    rw [run_startTimer, parsed]
    simp only [Store.schedule, seconds]
    rfl
  refine ⟨parsed, told.1.labelled, ?_⟩
  rw [run, (told.2.2 _ _ _ _ run).reply]
  decide +kernel

end Sidekick.Duration
