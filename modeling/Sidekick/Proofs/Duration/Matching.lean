import Sidekick.Proofs.Duration.Grammar

namespace Sidekick.Duration
open Text

/-! ## The search -/

def runs (p : Char → Bool) : List Char → List (List Char × List Char)
  | [] => [([], [])]
  | c :: s => (if p c then (runs p s).map fun (a, b) => (c :: a, b) else []) ++ [([], c :: s)]

def someRuns (p : Char → Bool) (s : List Char) : List (List Char × List Char) :=
  (runs p s).filter (·.1 ≠ [])

def spelled? : List Char → List Char → Option (List Char × List Char)
  | [], s => some ([], s)
  | _ :: _, [] => none
  | small :: name, c :: s =>
    if c ∈ variants small then (spelled? name s).map fun (a, b) => (c :: a, b) else none

def isEnd (s : List Char) : Bool := s = [] || s = ['\n']

def labels (s : List Char) : List (List Char) :=
  ((someRuns isBlank s).flatMap fun (_, s) =>
    ((runs (fun _ => true) s).filter (isEnd ·.2)).map (·.1)) ++
  if isEnd s then [[]] else []

/-- All matches of a text, with the names tried in the given order: the digits, the unit and the
label of each. -/
def matchings (names : List String) (s : List Char) : List (List Char × List Char × List Char) :=
  (someRuns isDecimalDigit s).flatMap fun (digits, s) =>
    (runs isBlank s).flatMap fun (_, s) =>
      names.flatMap fun name =>
        (spelled? name.toList s).toList.flatMap fun (unit, s) =>
          (labels s).map fun label => (digits, unit, label)

/-! ## What is found first -/

theorem head?_flatMap_cons {α β : Type} {f : α → List β} {x : α} {xs : List α} {y : β}
    (h : (f x).head? = some y) : ((x :: xs).flatMap f).head? = some y := by
  rw [List.flatMap_cons, List.head?_append, h, Option.some_or]

theorem head?_flatMap_of_forall {α β : Type} {f : α → List β} {xs : List α} {y : β}
    (h : ∀ x ∈ xs, f x ≠ [] → (f x).head? = some y) (found : ∃ x ∈ xs, f x ≠ []) :
    (xs.flatMap f).head? = some y := by
  induction xs with
  | nil =>
      obtain ⟨x, ⟨⟩, -⟩ := found
  | cons x xs ih =>
      obtain ⟨first, later⟩ := List.forall_mem_cons.mp h
      by_cases nothing : f x = []
      · rw [List.flatMap_cons, nothing, List.nil_append]
        refine ih later ?_
        obtain ⟨z, hz, some⟩ := found
        rcases List.mem_cons.mp hz with rfl | mem
        · exact absurd nothing some
        · exact ⟨z, mem, some⟩
      · exact head?_flatMap_cons (first nothing)

variable {p : Char → Bool} {s run rest : List Char}

theorem runs_run (hr : ∀ c ∈ run, p c = true) (stops : Stops p rest) :
    ∃ shorter, runs p (run ++ rest) = (run, rest) :: shorter := by
  induction run with
  | nil =>
      cases rest with
      | nil => exact ⟨[], rfl⟩
      | cons c rest => exact ⟨[], by rw [List.nil_append, runs, stops c rfl]; rfl⟩
  | cons c run ih =>
      obtain ⟨first, later⟩ := List.forall_mem_cons.mp hr
      obtain ⟨shorter, eq⟩ := ih later
      exact ⟨_, by rw [List.cons_append, runs, if_pos first, eq]; rfl⟩

theorem someRuns_run (ne : run ≠ []) (hr : ∀ c ∈ run, p c = true) (stops : Stops p rest) :
    ∃ shorter, someRuns p (run ++ rest) = (run, rest) :: shorter := by
  obtain ⟨shorter, eq⟩ := runs_run hr stops
  exact ⟨_, by rw [someRuns, eq, List.filter_cons_of_pos (by simpa using ne)]⟩

theorem mem_runs (h : (run, rest) ∈ runs p s) : s = run ++ rest ∧ ∀ c ∈ run, p c = true := by
  induction s generalizing run with
  | nil =>
      cases List.mem_singleton.mp h
      simp
  | cons c s ih =>
      rcases List.mem_append.mp h with longer | empty
      · split at longer
        · next hc =>
            obtain ⟨⟨a, b⟩, mem, eq⟩ := List.mem_map.mp longer
            cases eq
            obtain ⟨rfl, ha⟩ := ih mem
            exact ⟨rfl, List.forall_mem_cons.mpr ⟨hc, ha⟩⟩
        · cases longer
      · cases List.mem_singleton.mp empty
        simp

theorem spelled?_eq_some_iff {name unit : List Char} :
    spelled? name s = some (unit, rest) ↔ Spells unit name ∧ s = unit ++ rest := by
  induction name generalizing s unit with
  | nil => cases unit <;> simp [spelled?, Spells]
  | cons small name ih =>
      cases s with
      | nil => cases unit <;> simp [spelled?, Spells]
      | cons c s =>
          by_cases variant : c ∈ variants small
          · cases unit with
            | nil => simp [spelled?, Spells, variant]
            | cons d unit =>
                have first :
                    (∃ a b, spelled? name s = some (a, b) ∧ (c :: a, b) = (d :: unit, rest)) ↔
                      c = d ∧ spelled? name s = some (unit, rest) := by
                  constructor
                  · rintro ⟨a, b, found, eq⟩
                    cases eq
                    exact ⟨rfl, found⟩
                  · rintro ⟨rfl, found⟩
                    exact ⟨unit, rest, found, rfl⟩
                rw [spelled?, if_pos variant, Option.map_eq_some_iff, Prod.exists, first, ih,
                  Spells, Spells, List.forall₂_cons, List.cons_append, List.cons.injEq]
                constructor
                · rintro ⟨rfl, spells, rfl⟩
                  exact ⟨⟨variant, spells⟩, rfl, rfl⟩
                · rintro ⟨⟨-, spells⟩, rfl, rfl⟩
                  exact ⟨rfl, spells, rfl⟩
          · rw [spelled?, if_neg variant]
            constructor
            · simp
            · rintro ⟨spells, eq⟩
              cases spells with
              | cons first _ =>
                  cases eq
                  exact absurd first variant

theorem stops_of_labels (h : labels s ≠ []) : Stops (!isBlank ·) s := by
  intro c hc
  obtain ⟨r, rfl⟩ : ∃ r, s = c :: r := by
    cases s with
    | nil => cases hc
    | cons d r => exact ⟨r, by cases hc; rfl⟩
  cases blank : isBlank c with
  | true => simp [blank]
  | false =>
      have ends : c :: r ≠ ['\n'] := by
        intro eq
        cases eq
        exact absurd blank (by decide +kernel)
      exact absurd (by simp [labels, someRuns, runs, blank, isEnd, ends]) h

theorem head?_labels {gap label : List Char}
    (h : gap = [] ∧ label = [] ∨ IsGap gap ∧ label ≠ [] ∧ Stops isBlank label) :
    (labels (gap ++ label)).head? = some label := by
  rcases h with ⟨rfl, rfl⟩ | ⟨gap, -, stops⟩
  · rfl
  · obtain ⟨shorter, first⟩ := someRuns_run gap.ne_nil gap.blanks stops
    have every : ∀ c ∈ label, (fun _ => true) c = true := fun _ _ => rfl
    obtain ⟨shorter', all⟩ := runs_run every (stops_nil _)
    rw [List.append_nil] at all
    rw [labels, first, List.head?_append, head?_flatMap_cons (y := label), Option.some_or]
    simp only [all]
    rw [List.filter_cons_of_pos (by rfl)]
    rfl

theorem head?_matchings {names : List String} (all : ∀ n, n ∈ names ↔ n ∈ unitNames) {q : Parts}
    (h : Asks q) : (matchings names q.text).head? = some (q.digits, q.name, q.label) := by
  obtain ⟨shorter, first⟩ := someRuns_run h.number h.digits h.stops_digits
  obtain ⟨shorter', second⟩ := runs_run h.gap h.stops_name
  have found : ((labels (q.gap' ++ q.label)).map fun label => (q.digits, q.name, label)).head? =
      some (q.digits, q.name, q.label) := by
    rw [List.head?_map, head?_labels h.label, Option.map_some]
  rw [matchings, Parts.text, first]
  refine head?_flatMap_cons ?_
  simp only [second]
  refine head?_flatMap_cons (head?_flatMap_of_forall (fun name known some => ?_) ?_)
  · cases spelled : spelled? name.toList (q.name ++ (q.gap' ++ q.label)) with
    | none => simp [spelled] at some
    | some parts =>
        obtain ⟨unit, rest⟩ := parts
        obtain ⟨spells, eq⟩ := spelled?_eq_some_iff.mp spelled
        have stops : Stops (!isBlank ·) rest :=
          stops_of_labels fun none => some (by simp [spelled, none])
        have isName : IsUnitName unit := ⟨name, (all name).mp known, spells⟩
        obtain rfl : q.name = unit := by
          rw [← word_append h.name.isWord.no_blank h.stops_tail, eq,
            word_append isName.isWord.no_blank stops]
        obtain rfl := List.append_cancel_left eq
        simpa only [Option.toList_some, List.flatMap_singleton] using found
  · obtain ⟨name, known, spells⟩ := h.name
    refine ⟨name, (all name).mpr known, fun none => ?_⟩
    rw [spelled?_eq_some_iff.mpr ⟨spells, rfl⟩] at none
    simp only [Option.toList_some, List.flatMap_singleton] at none
    rw [none] at found
    cases found

theorem exists_asks_of_mem_matchings {names : List String} (known : ∀ n ∈ names, n ∈ unitNames)
    (trimmed : Trimmed s) {m : List Char × List Char × List Char} (h : m ∈ matchings names s) :
    ∃ q, Asks q ∧ s = q.text := by
  simp only [matchings, List.mem_flatMap, List.mem_map, Option.mem_toList, Prod.exists, someRuns,
    List.mem_filter, decide_eq_true_eq] at h
  obtain ⟨d, r, ⟨hd, number⟩, g, r', hg, name, hname, u, r'', hu, l, hl, -⟩ := h
  obtain ⟨rfl, digits⟩ := mem_runs hd
  obtain ⟨rfl, gap⟩ := mem_runs hg
  obtain ⟨spells, rfl⟩ := spelled?_eq_some_iff.mp hu
  have stops := stops_of_labels (List.ne_nil_of_mem hl)
  have asks := asks_of_tail number digits gap ⟨name, known name hname, spells⟩ stops trimmed
  refine ⟨_, asks, ?_⟩
  simp only [Parts.text, trimStart, List.takeWhile_append_dropWhile]

/-! ## Reading by search -/

inductive Faulty (p : Parts) : Fault → Prop
  | tooManyDigits (long : maxDigits < p.digits.length) :
      Faulty p (.tooManyDigits p.digits.length)
  | unknownUnit (short : p.digits.length ≤ maxDigits) (foreign : ∃ c ∈ p.name, c ∈ foreignLetters) :
      Faulty p (.unknownUnit (String.ofList (lower p.name)))

structure Reads (p : Parts) (unit : TimeUnit) (c : Countdown) : Prop where
  short : p.digits.length ≤ maxDigits
  known : ∃ name ∈ unit.names, lower p.name = name.toList
  millis : c.millis = decimalValue p.digits * unit.millis
  words : c.words = toString (decimalValue p.digits) ++ " " ++ unit.word ++
    if decimalValue p.digits = 1 then "" else "s"
  label : c.label = String.ofList p.label

theorem parse_eq_ok_none_iff : parse s = .ok none ↔ ¬ ∃ p, Asks p ∧ trim s = p.text := by
  refine ⟨?_, parse_of_no_parts⟩
  rintro none ⟨p, asks, text⟩
  rw [parse_of_asks asks text] at none
  split at none
  · cases none
  · split at none <;> cases none

theorem parse_eq_error_iff {fault : Fault} :
    parse s = .error fault ↔ ∃ p, Asks p ∧ trim s = p.text ∧ Faulty p fault := by
  constructor
  · intro fails
    by_cases parts : ∃ p, Asks p ∧ trim s = p.text
    · obtain ⟨p, asks, text⟩ := parts
      refine ⟨p, asks, text, ?_⟩
      rw [parse_of_asks asks text] at fails
      split at fails
      · next long =>
          cases fails
          exact .tooManyDigits long
      · next short =>
          split at fails
          · next unknown =>
              cases fails
              exact .unknownUnit (by omega) ((ofName?_lower_eq_none_iff asks.name).mp unknown)
          · cases fails
    · rw [parse_of_no_parts parts] at fails
      cases fails
  · rintro ⟨p, asks, text, faulty⟩
    rw [parse_of_asks asks text]
    cases faulty with
    | tooManyDigits long => rw [if_pos long]
    | unknownUnit short foreign =>
        rw [if_neg (by omega), (ofName?_lower_eq_none_iff asks.name).mpr foreign]

theorem parse_eq_ok_some_iff {c : Countdown} :
    parse s = .ok (some c) ↔ ∃ p unit, Asks p ∧ trim s = p.text ∧ Reads p unit c := by
  constructor
  · intro reads
    by_cases parts : ∃ p, Asks p ∧ trim s = p.text
    · obtain ⟨p, asks, text⟩ := parts
      rw [parse_of_asks asks text] at reads
      split at reads
      · cases reads
      · next short =>
          split at reads
          · cases reads
          · next unit known =>
              cases reads
              obtain ⟨name, mem, eq⟩ := ofName?_eq_some_iff.mp known
              exact ⟨p, unit, asks, text, by omega, ⟨name, mem, eq.symm⟩, rfl, rfl, rfl⟩
    · rw [parse_of_no_parts parts] at reads
      cases reads
  · rintro ⟨p, unit, asks, text, short, ⟨name, mem, eq⟩, millis, words, label⟩
    rw [parse_of_asks asks text, if_neg (by omega), ofName?_eq_some_iff.mpr ⟨name, mem, eq.symm⟩]
    cases c
    cases millis
    cases words
    cases label
    rfl

theorem parse_iff_asks (s : List Char) :
    (∀ names, (∀ n, n ∈ names ↔ n ∈ unitNames) → ∀ digits unit label,
      (matchings names (trim s)).head? = some (digits, unit, label) ↔
        ∃ p, Asks p ∧ trim s = p.text ∧ p.digits = digits ∧ p.name = unit ∧ p.label = label) ∧
    (∀ p q, Asks p → Asks q → trim s = p.text → trim s = q.text → p = q) ∧
    (parse s = .ok none ↔ ¬ ∃ p, Asks p ∧ trim s = p.text) ∧
    (∀ c, parse s = .ok (some c) ↔ ∃ p unit, Asks p ∧ trim s = p.text ∧ Reads p unit c) ∧
    ∀ fault, parse s = .error fault ↔ ∃ p, Asks p ∧ trim s = p.text ∧ Faulty p fault := by
  refine ⟨fun names all digits unit label => ⟨fun first => ?_, ?_⟩,
    fun p q hp hq left right => hp.eq hq (left.symm.trans right), parse_eq_ok_none_iff,
    fun _ => parse_eq_ok_some_iff, fun _ => parse_eq_error_iff⟩
  · obtain ⟨p, asks, text⟩ := exists_asks_of_mem_matchings (fun n => (all n).mp) (trimmed_trim s)
      (List.mem_of_mem_head? first)
    rw [text, head?_matchings all asks] at first
    cases first
    exact ⟨p, asks, text, rfl, rfl, rfl⟩
  · rintro ⟨p, asks, text, rfl, rfl, rfl⟩
    rw [text, head?_matchings all asks]

end Sidekick.Duration
