import Mathlib.Data.List.Forall2
import Sidekick.Duration
import Sidekick.Proofs.Text.Words

namespace Sidekick.Duration
open Text

/-! ## Letters in any case -/

def variants (small : Char) : List Char :=
  [small, small.toUpper] ++
    if small = 's' then ['\u017F'] else if small = 'i' then ['\u0130', '\u0131']
    else if small = 'k' then ['\u212A'] else []

def foreignLetters : List Char := ['\u017F', '\u0131', '\u0130']

def smallLetters : List Char := "abcdefghijklmnopqrstuvwxyz".toList

def unitNames : List String := TimeUnit.all.flatMap TimeUnit.names

/-- A name with each of its letters in one of its variants. -/
def Spells (spelling name : List Char) : Prop :=
  List.Forall₂ (fun c small => c ∈ variants small) spelling name

def IsUnitName (spelling : List Char) : Prop := ∃ name ∈ unitNames, Spells spelling name.toList

theorem small_of_mem_unitNames : ∀ name ∈ unitNames, ∀ c ∈ name.toList, c ∈ smallLetters := by
  decide +kernel

theorem toLower_eq (c : Char) : c.toLower = c ∨ c ∈ variants c.toLower := by
  have all : ∀ k : Fin 26,
      Char.ofNat (65 + k.val) ∈ variants (Char.ofNat (65 + k.val)).toLower := by
    decide
  by_cases capital : c.val ≥ 'A'.val ∧ c.val ≤ 'Z'.val
  · have low : 65 ≤ c.toNat := capital.1
    have high : c.toNat ≤ 90 := capital.2
    have found := all ⟨c.toNat - 65, by omega⟩
    rw [show 65 + (c.toNat - 65) = c.toNat by omega, Char.ofNat_toNat] at found
    exact .inr found
  · exact .inl (dif_neg capital)

theorem foldCase_eq_iff {c small : Char} (h : small ∈ smallLetters) :
    foldCase c = small ↔ c ∈ variants small := by
  constructor
  · rintro rfl
    unfold foldCase
    split
    · next eq => subst eq; decide
    · split
      · next eq => rcases eq with rfl | rfl <;> decide
      · split
        · next eq => subst eq; decide
        · rcases toLower_eq c with same | capital
          · rw [same]
            exact List.mem_cons_self
          · exact capital
  · have all : ∀ small ∈ smallLetters, ∀ c ∈ variants small, foldCase c = small := by
      decide +kernel
    exact all small h c

theorem map_foldCase_eq_iff {s name : List Char} (h : ∀ c ∈ name, c ∈ smallLetters) :
    s.map foldCase = name ↔ Spells s name := by
  induction s generalizing name with
  | nil => cases name <;> simp [Spells]
  | cons c s ih =>
      cases name with
      | nil => simp [Spells]
      | cons small name =>
          obtain ⟨first, rest⟩ := List.forall_mem_cons.mp h
          rw [List.map_cons, List.cons.injEq, foldCase_eq_iff first, ih rest, Spells, Spells,
            List.forall₂_cons]

/-! ## Names of units -/

theorem ofName?_eq_some_iff {name : List Char} {unit : TimeUnit} :
    TimeUnit.ofName? name = some unit ↔ ∃ n ∈ unit.names, n.toList = name := by
  constructor
  · intro found
    simpa using List.find?_some found
  · rintro ⟨n, hn, rfl⟩
    have all : ∀ n ∈ unit.names, TimeUnit.ofName? n.toList = some unit := by
      cases unit <;> decide +kernel
    exact all n hn

theorem mem_unitNames {name : String} :
    name ∈ unitNames ↔ ∃ unit : TimeUnit, name ∈ unit.names := by
  rw [unitNames, List.mem_flatMap]
  refine exists_congr fun unit => and_iff_right ?_
  cases unit <;> decide

theorem isSome_ofName?_iff {name : List Char} :
    (TimeUnit.ofName? name).isSome = true ↔ ∃ n ∈ unitNames, n.toList = name := by
  rw [Option.isSome_iff_exists]
  simp only [ofName?_eq_some_iff, mem_unitNames]
  exact ⟨fun ⟨unit, n, hn, eq⟩ => ⟨n, ⟨unit, hn⟩, eq⟩, fun ⟨n, ⟨unit, hn⟩, eq⟩ => ⟨unit, n, hn, eq⟩⟩

theorem isUnitName_iff {s : List Char} :
    IsUnitName s ↔ (TimeUnit.ofName? (s.map foldCase)).isSome = true := by
  rw [isSome_ofName?_iff]
  refine exists_congr fun name => and_congr_right fun known => ?_
  rw [eq_comm, map_foldCase_eq_iff (small_of_mem_unitNames name known)]

theorem IsUnitName.variant {s : List Char} (h : IsUnitName s) :
    ∀ c ∈ s, ∃ small ∈ smallLetters, c ∈ variants small := by
  obtain ⟨name, known, spells⟩ := h
  have small := small_of_mem_unitNames name known
  generalize name.toList = letters at spells small
  induction spells with
  | nil => simp
  | cons variant _ ih =>
      obtain ⟨first, rest⟩ := List.forall_mem_cons.mp small
      exact List.forall_mem_cons.mpr ⟨⟨_, first, variant⟩, ih rest⟩

theorem IsUnitName.plain {s : List Char} (h : IsUnitName s) :
    ∀ c ∈ s, isBlank c = false ∧ isDecimalDigit c = false := by
  have all : ∀ small ∈ smallLetters, ∀ c ∈ variants small,
      isBlank c = false ∧ isDecimalDigit c = false := by
    decide +kernel
  intro c hc
  obtain ⟨small, mem, variant⟩ := h.variant c hc
  exact all small mem c variant

theorem IsUnitName.isWord {s : List Char} (h : IsUnitName s) : IsWord s := by
  refine ⟨?_, fun c hc => (h.plain c hc).1⟩
  rintro rfl
  exact absurd (isUnitName_iff.mp h) (by decide +kernel)

/-! ### Lower case -/

theorem lowerAfter_of_native {s : List Char}
    (letters : ∀ c ∈ s, ∃ small ∈ smallLetters, c ∈ variants small)
    (native : ∀ c ∈ s, c ∉ foreignLetters) (before : List Char) :
    lowerAfter before s = s.map foldCase := by
  have all : ∀ small ∈ smallLetters, ∀ c ∈ variants small, c ∉ foreignLetters →
      c ≠ '\u0130' ∧ c ≠ 'Σ' ∧ lowerChar c = foldCase c := by
    decide +kernel
  induction s generalizing before with
  | nil => rfl
  | cons c s ih =>
      obtain ⟨⟨small, mem, variant⟩, letters⟩ := List.forall_mem_cons.mp letters
      obtain ⟨first, native⟩ := List.forall_mem_cons.mp native
      obtain ⟨dotted, sigma, same⟩ := all small mem c variant first
      rw [lowerAfter, lowerAt, if_neg dotted, if_neg sigma, same, ih letters native, List.map_cons,
        List.singleton_append]

theorem exists_foreign_of_mem {s : List Char} {c : Char} (hc : c ∈ s) (foreign : c ∈ foreignLetters)
    (before : List Char) : ∃ d ∈ lowerAfter before s, d ∉ smallLetters := by
  have all : ∀ c ∈ foreignLetters, ∀ before after, ∃ d ∈ lowerAt before after c,
      d ∉ smallLetters := by
    have kept : ∀ c ∈ ['\u017F', '\u0131'],
        c ≠ '\u0130' ∧ c ≠ 'Σ' ∧ lowerChar c ∉ smallLetters := by
      decide +kernel
    intro c foreign before after
    by_cases dotted : c = '\u0130'
    · refine ⟨'\u0307', ?_, by decide⟩
      rw [lowerAt, if_pos dotted]
      decide
    · obtain ⟨-, sigma, strange⟩ := kept c (by simpa [foreignLetters, dotted] using foreign)
      refine ⟨lowerChar c, ?_, strange⟩
      rw [lowerAt, if_neg dotted, if_neg sigma]
      exact List.mem_cons_self
  induction s generalizing before with
  | nil => cases hc
  | cons x s ih =>
      rw [lowerAfter]
      rcases List.mem_cons.mp hc with rfl | later
      · obtain ⟨d, hd, strange⟩ := all c foreign before s
        exact ⟨d, List.mem_append_left _ hd, strange⟩
      · obtain ⟨d, hd, strange⟩ := ih later (x :: before)
        exact ⟨d, List.mem_append_right _ hd, strange⟩

theorem ofName?_lower_eq_none_iff {s : List Char} (h : IsUnitName s) :
    TimeUnit.ofName? (lower s) = none ↔ ∃ c ∈ s, c ∈ foreignLetters := by
  constructor
  · intro unknown
    by_cases native : ∀ c ∈ s, c ∉ foreignLetters
    · have known := isUnitName_iff.mp h
      rw [← lowerAfter_of_native h.variant native [], ← lower, unknown] at known
      cases known
    · simpa using native
  · rintro ⟨c, hc, foreign⟩
    obtain ⟨d, hd, strange⟩ := exists_foreign_of_mem hc foreign []
    cases known : TimeUnit.ofName? (lower s) with
    | none => rfl
    | some unit =>
        obtain ⟨name, mem, eq⟩ := isSome_ofName?_iff.mp (by rw [known]; rfl)
        exact absurd (small_of_mem_unitNames name mem d (eq ▸ hd)) strange

/-! ## Parts -/

structure Parts where
  digits : List Char
  gap : List Char
  name : List Char
  gap' : List Char
  label : List Char

namespace Parts

def text (p : Parts) : List Char := p.digits ++ (p.gap ++ (p.name ++ (p.gap' ++ p.label)))

def ofText (t : List Char) : Parts :=
  let rest := t.dropWhile isDecimalDigit
  let tail := afterWord (trimStart rest)
  ⟨t.takeWhile isDecimalDigit, rest.takeWhile isBlank, word (trimStart rest),
    tail.takeWhile isBlank, trimStart tail⟩

end Parts

/-- The label, if there is one, has a gap before it. -/
structure Asks (p : Parts) : Prop where
  number : p.digits ≠ []
  digits : ∀ c ∈ p.digits, isDecimalDigit c = true
  gap : Blanks p.gap
  name : IsUnitName p.name
  label : p.gap' = [] ∧ p.label = [] ∨ IsGap p.gap' ∧ p.label ≠ [] ∧ Stops isBlank p.label

theorem Parts.text_ofText (t : List Char) : (ofText t).text = t := by
  have start (s : List Char) : s.takeWhile isBlank ++ trimStart s = s :=
    List.takeWhile_append_dropWhile
  rw [text, ofText, start, word_append_afterWord, start, List.takeWhile_append_dropWhile]

theorem not_isDecimalDigit_of_isBlank {c : Char} (h : isBlank c = true) :
    isDecimalDigit c = false := by
  have all : ∀ r ∈ blanks, ∀ n ∈ List.range' r.1 (r.2 + 1 - r.1), decimalDigits.has n = false := by
    decide +kernel
  obtain ⟨first, start⟩ := Option.isSome_iff_exists.mp h
  obtain ⟨last, mem, low, high⟩ := Ranges.start?_eq_some start
  have none := all _ mem c.toNat (List.mem_range'_1.mpr ⟨low, by dsimp only; omega⟩)
  simpa [isDecimalDigit, digitValue?, Ranges.has] using none

variable {p : Parts} {s : List Char}

theorem Asks.stops_tail (h : Asks p) : Stops (!isBlank ·) (p.gap' ++ p.label) := by
  rcases h.label with ⟨gap, label⟩ | ⟨gap, -, -⟩
  · rw [gap, label]
    exact stops_nil _
  · exact gap.stops p.label

theorem Asks.cut_tail (h : Asks p) : (p.gap' ++ p.label).takeWhile isBlank = p.gap' ∧
    trimStart (p.gap' ++ p.label) = p.label := by
  rcases h.label with ⟨gap, label⟩ | ⟨gap, -, stops⟩
  · rw [gap, label]
    exact ⟨rfl, rfl⟩
  · exact ⟨takeWhile_run gap.blanks stops, dropWhile_run gap.blanks stops⟩

theorem Asks.stops_name (h : Asks p) : Stops isBlank (p.name ++ (p.gap' ++ p.label)) := by
  obtain ⟨c, name, eq⟩ := List.exists_cons_of_ne_nil h.name.isWord.ne_nil
  have plain := h.name.isWord.no_blank
  rw [eq] at plain ⊢
  exact stops_cons (plain c List.mem_cons_self) _

theorem Asks.stops_digits (h : Asks p) :
    Stops isDecimalDigit (p.gap ++ (p.name ++ (p.gap' ++ p.label))) := by
  refine stops_append (fun c hc => not_isDecimalDigit_of_isBlank (h.gap c hc)) ?_
  obtain ⟨c, name, eq⟩ := List.exists_cons_of_ne_nil h.name.isWord.ne_nil
  have plain := h.name.plain
  rw [eq] at plain ⊢
  exact stops_cons (plain c List.mem_cons_self).2 _

theorem Parts.ofText_text (h : Asks p) : ofText p.text = p := by
  have name := h.name.isWord.no_blank
  obtain ⟨gap', label⟩ := h.cut_tail
  simp only [ofText, text, takeWhile_run h.digits h.stops_digits,
    dropWhile_run h.digits h.stops_digits, takeWhile_run h.gap h.stops_name, trimStart_blanks h.gap
    h.stops_name, word_append name h.stops_tail, afterWord_append name h.stops_tail, gap', label]

theorem Asks.eq {q : Parts} (hp : Asks p) (hq : Asks q) (h : p.text = q.text) : p = q := by
  rw [← Parts.ofText_text hp, h, Parts.ofText_text hq]

theorem Asks.trimmed_label (h : Asks p) (trimmed : Trimmed p.text) : Trimmed p.label := by
  rcases h.label with ⟨-, label⟩ | ⟨-, some, stops⟩
  · rw [label]
    exact trimmed_nil
  · refine ⟨stops, ?_⟩
    have ends := trimmed.last
    rwa [show p.text = (p.digits ++ (p.gap ++ (p.name ++ p.gap'))) ++ p.label by simp [Parts.text],
      stops_reverse_append some] at ends

theorem Asks.trim_tail (h : Asks p) (trimmed : Trimmed p.text) :
    trim (p.gap' ++ p.label) = p.label := by
  have label := h.trimmed_label trimmed
  rcases h.label with ⟨gap, none⟩ | ⟨gap, -, -⟩
  · rw [gap, none]
    rfl
  · exact trim_gap gap label

theorem asks_of_tail {d g u tail : List Char} (number : d ≠ [])
    (digits : ∀ c ∈ d, isDecimalDigit c = true) (gap : Blanks g) (name : IsUnitName u)
    (stops : Stops (!isBlank ·) tail) (trimmed : Trimmed (d ++ (g ++ (u ++ tail)))) :
    Asks ⟨d, g, u, tail.takeWhile isBlank, trimStart tail⟩ := by
  refine ⟨number, digits, gap, name, ?_⟩
  cases tail with
  | nil => exact .inl ⟨rfl, rfl⟩
  | cons c tail =>
      have blank : isBlank c = true := by simpa using stops c rfl
      refine .inr ⟨⟨?_, blanks_takeWhile _⟩,
        fun (none : trimStart (c :: tail) = []) => ?_, fun _ hc => head?_trimStart hc⟩
      · rw [List.takeWhile_cons_of_pos blank]
        exact List.cons_ne_nil _ _
      · have all : (c :: tail).takeWhile isBlank ++ trimStart (c :: tail) = c :: tail :=
          List.takeWhile_append_dropWhile
        have ends := trimmed.last
        rw [← List.append_assoc, ← List.append_assoc,
          stops_reverse_append (List.cons_ne_nil c tail)] at ends
        rw [none, List.append_nil] at all
        exact List.cons_ne_nil c tail (eq_nil_of_blanks (all ▸ blanks_takeWhile _) ends)

theorem asks_ofText {t : List Char} (trimmed : Trimmed t) (number : (Parts.ofText t).digits ≠ [])
    (name : IsUnitName (Parts.ofText t).name) : Asks (Parts.ofText t) := by
  refine asks_of_tail number (fun c hc => List.all_eq_true.mp List.all_takeWhile c hc)
    (blanks_takeWhile _) name (fun c hc => ?_) ?_
  · simp [head?_afterWord hc]
  · rw [word_append_afterWord, trimStart, List.takeWhile_append_dropWhile,
      List.takeWhile_append_dropWhile]
    exact trimmed

/-! ## Reading a duration -/

theorem split?_eq (s : List Char) : split? s =
    if (Parts.ofText (trim s)).digits ≠ [] ∧
        (TimeUnit.ofName? ((Parts.ofText (trim s)).name.map foldCase)).isSome = true then
      some ((Parts.ofText (trim s)).digits, (Parts.ofText (trim s)).name,
        (Parts.ofText (trim s)).gap' ++ (Parts.ofText (trim s)).label)
    else none := by
  have tail : (Parts.ofText (trim s)).gap' ++ (Parts.ofText (trim s)).label =
      afterWord (trimStart ((trim s).dropWhile isDecimalDigit)) := List.takeWhile_append_dropWhile
  rw [tail, split?]
  simp only [Parts.ofText, List.isEmpty_iff, Option.isNone_iff_eq_none, ne_eq,
    Option.isSome_iff_ne_none, ite_not, ← not_or]

theorem split?_of_asks (h : Asks p) (text : trim s = p.text) :
    split? s = some (p.digits, p.name, p.gap' ++ p.label) := by
  rw [split?_eq, text, Parts.ofText_text h, if_pos ⟨h.number, isUnitName_iff.mp h.name⟩]

theorem exists_asks_of_split? (h : split? s ≠ none) : ∃ p, Asks p ∧ trim s = p.text := by
  rw [split?_eq] at h
  split at h
  · next parts =>
      exact ⟨_, asks_ofText (trimmed_trim s) parts.1 (isUnitName_iff.mpr parts.2),
        (Parts.text_ofText _).symm⟩
  · exact absurd rfl h

theorem parse_of_no_parts (h : ¬ ∃ p, Asks p ∧ trim s = p.text) : parse s = .ok none := by
  cases parts : split? s with
  | none => rw [parse, parts]
  | some _ => exact absurd (exists_asks_of_split? (by simp [parts])) h

theorem parse_of_asks (h : Asks p) (text : trim s = p.text) : parse s =
    if maxDigits < p.digits.length then .error (.tooManyDigits p.digits.length)
    else match TimeUnit.ofName? (lower p.name) with
      | none => .error (.unknownUnit (String.ofList (lower p.name)))
      | some unit => .ok (some ⟨decimalValue p.digits * unit.millis,
          describe (decimalValue p.digits) unit, String.ofList p.label⟩) := by
  have trimmed : Trimmed p.text := text ▸ trimmed_trim s
  rw [parse, split?_of_asks h text]
  by_cases long : maxDigits < p.digits.length
  · simp only [if_pos long]
  · simp only [if_neg long]
    cases TimeUnit.ofName? (lower p.name) with
    | none => rfl
    | some unit => simp only [h.trim_tail trimmed]

end Sidekick.Duration
