import Sidekick.Mention
import Sidekick.Proofs.Text.Words

namespace Sidekick.Request
open Text

/-- An at sign and a word whose letters are, in lower case, those of the bot's name. -/
structure IsMention (bot : String) (m : List Char) : Prop where
  no_blank : ∀ c ∈ m, isBlank c = false
  names : ∃ name, m = '@' :: name ∧ (lower name).filter isLetter = bot.toList

/-- The parts of a text: a mention, a command and its arguments, and the gaps before these two. -/
structure Parts where
  mention : List Char
  gap : List Char
  command : List Char
  gap' : List Char
  args : List Char

def Parts.text (p : Parts) : List Char := p.mention ++ (p.gap ++ (p.command ++ (p.gap' ++ p.args)))

def Parts.request (p : Parts) : Request := ⟨String.ofList p.command, String.ofList p.args⟩

inductive Addressed (bot : String) : Parts → Prop
  | bare {m : List Char} : IsMention bot m → Addressed bot ⟨m, [], [], [], []⟩
  | command {m g c : List Char} : IsMention bot m → IsGap g → IsWord c →
      Addressed bot ⟨m, g, c, [], []⟩
  | args {m g c g' a : List Char} : IsMention bot m → IsGap g → IsWord c → IsGap g' →
      a ≠ [] → Trimmed a → Addressed bot ⟨m, g, c, g', a⟩

variable {bot : String} {p q : Parts}

theorem IsMention.isWord {m : List Char} (h : IsMention bot m) : IsWord m := by
  obtain ⟨name, rfl, -⟩ := h.names
  exact ⟨List.cons_ne_nil _ _, h.no_blank⟩

def Parts.tail (p : Parts) : List Char := p.command ++ (p.gap' ++ p.args)

theorem Addressed.isMention (h : Addressed bot p) : IsMention bot p.mention := by
  cases h with
  | bare hm => exact hm
  | command hm => exact hm
  | args hm => exact hm

theorem Addressed.cut_tail (h : Addressed bot p) : cut p.tail = (p.command, p.gap', p.args) := by
  cases h with
  | bare => rfl
  | command _ _ hc =>
      rw [Parts.tail, List.append_nil, List.append_nil]
      exact cut_word hc
  | args _ _ hc hg' _ trimmed => exact cut_append hc hg' trimmed

theorem Addressed.trimmed_tail (h : Addressed bot p) : Trimmed p.tail := by
  cases h with
  | bare => exact trimmed_nil
  | command _ _ hc => simpa [Parts.tail] using hc.trimmed
  | args _ _ hc _ ne trimmed => exact hc.append ne trimmed

theorem Addressed.gap_or (h : Addressed bot p) :
    (p.gap = [] ∧ p.tail = []) ∨ (IsGap p.gap ∧ p.tail ≠ []) := by
  cases h with
  | bare => exact .inl ⟨rfl, rfl⟩
  | command _ hg hc => exact .inr ⟨hg, by simp [Parts.tail, hc.ne_nil]⟩
  | args _ hg hc => exact .inr ⟨hg, by simp [Parts.tail, hc.ne_nil]⟩

theorem Addressed.cut_text (h : Addressed bot p) : cut p.text = (p.mention, p.gap, p.tail) := by
  have word := h.isMention.isWord
  rcases h.gap_or with ⟨gap, tail⟩ | ⟨gap, -⟩
  · rw [Parts.text, ← Parts.tail, gap, tail, List.append_nil, List.append_nil]
    exact cut_word word
  · exact cut_append word gap h.trimmed_tail

theorem Addressed.trimmed (h : Addressed bot p) : Trimmed p.text := by
  have word := h.isMention.isWord
  rcases h.gap_or with ⟨gap, tail⟩ | ⟨-, ne⟩
  · rw [Parts.text, ← Parts.tail, gap, tail, List.append_nil, List.append_nil]
    exact word.trimmed
  · exact word.append ne h.trimmed_tail

theorem Addressed.eq (hp : Addressed bot p) (hq : Addressed bot q) (h : p.text = q.text) :
    p = q := by
  have first := hp.cut_text.symm.trans (h ▸ hq.cut_text)
  obtain ⟨mention, gap, tail⟩ : p.mention = q.mention ∧ p.gap = q.gap ∧ p.tail = q.tail := by
    simpa using first
  have second := hp.cut_tail.symm.trans (tail ▸ hq.cut_tail)
  obtain ⟨command, gap', args⟩ : p.command = q.command ∧ p.gap' = q.gap' ∧ p.args = q.args := by
    simpa using second
  cases p
  cases q
  simp_all

theorem ofTail_tail (h : Addressed bot p) : ofTail p.tail = p.request := by
  have parts := h.cut_tail
  simp only [cut, Prod.mk.injEq] at parts
  rw [ofTail, parts.1, parts.2.2, Parts.request]

theorem parse?_of_addressed {text : String} (h : Addressed bot p)
    (around : Around text.toList p.text) : parse? bot text = some p.request := by
  obtain ⟨name, at_, spells⟩ := h.isMention.names
  have parts := h.cut_text
  simp only [cut, Prod.mk.injEq, at_] at parts
  have text_eq : p.text = '@' :: (name ++ (p.gap ++ p.tail)) := by
    rw [Parts.text, at_]
    rfl
  have plain : isBlank '@' = false := by decide
  rw [text_eq] at parts
  simp only [word, afterWord, List.takeWhile_cons, List.dropWhile_cons, plain, Bool.not_false,
    if_true, List.cons.injEq, true_and] at parts
  simp only [parse?, trim_of_around around h.trimmed, text_eq, mentioned, word, afterWord, parts,
    spells, if_true, ofTail_tail h]

theorem exists_addressed {s : List Char} (mention : IsMention bot (word s)) (trimmed : Trimmed s) :
    ∃ p, Addressed bot p ∧ p.text = s := by
  rcases trimmed.cases with rfl | whole | ⟨m, g, t, hm, hg, ht, ne, rfl⟩
  · exact absurd rfl mention.isWord.ne_nil
  · rw [(afterWord_word whole).1] at mention
    exact ⟨_, .bare mention, by simp [Parts.text]⟩
  · rw [word_append hm.no_blank (hg.stops t)] at mention
    rcases ht.cases.resolve_left ne with hc | ⟨c, g', a, hc, hg', ha, na, rfl⟩
    · exact ⟨_, .command mention hg hc, by simp [Parts.text]⟩
    · exact ⟨_, .args mention hg hc hg' na ha, rfl⟩

theorem isMention_of_parse? {text : String} {r : Request} (h : parse? bot text = some r) :
    IsMention bot (word (trim text.toList)) := by
  refine ⟨fun c hc => not_isBlank_of_mem_word hc, ?_⟩
  unfold parse? at h
  split at h
  · rename_i s start
    split at h
    · rename_i spells
      have plain : isBlank '@' = false := by decide
      exact ⟨word s, by simp [start, word, plain], spells⟩
    · cases h
  · cases h

def smallLetters : List Char := "abcdefghijklmnopqrstuvwxyz".toList

def IsPlainName (bot : String) : Prop := ∀ c ∈ bot.toList, c ∈ smallLetters

instance (bot : String) : Decidable (IsPlainName bot) :=
  inferInstanceAs (Decidable (∀ c ∈ bot.toList, c ∈ smallLetters))

theorem lowerAfter_plain {s : List Char} (h : ∀ c ∈ s, c ∈ smallLetters) (before : List Char) :
    lowerAfter before s = s := by
  have all : ∀ c ∈ smallLetters, c ≠ '\u0130' ∧ c ≠ 'Σ' ∧ lowerChar c = c := by decide +kernel
  induction s generalizing before with
  | nil => rfl
  | cons c s ih =>
      obtain ⟨dotted, sigma, small⟩ := all c (h c List.mem_cons_self)
      rw [lowerAfter, lowerAt, if_neg dotted, if_neg sigma, small,
        ih fun d hd => h d (List.mem_cons_of_mem _ hd), List.singleton_append]

theorem isMention_plain (plain : IsPlainName bot) : IsMention bot ('@' :: bot.toList) := by
  have all : ∀ c ∈ smallLetters, isBlank c = false ∧ isLetter c = true := by decide +kernel
  refine ⟨fun c hc => ?_, bot.toList, rfl, ?_⟩
  · rcases List.mem_cons.mp hc with rfl | hc
    · decide
    · exact (all c (plain c hc)).1
  · rw [lower, lowerAfter_plain plain, List.filter_eq_self]
    exact fun c hc => (all c (plain c hc)).2

def written (bot : String) (r : Request) : String :=
  "@" ++ bot ++ " " ++ r.command ++ " " ++ r.args

theorem parse?_written (plain : IsPlainName bot) (h : Addressed bot p) :
    parse? bot (written bot p.request) = some p.request := by
  have mention := isMention_plain plain
  have space : IsGap [' '] := by decide
  have text : (written bot p.request).toList =
      '@' :: (bot.toList ++ ' ' :: (p.command ++ ' ' :: p.args)) := by
    simp [written, Parts.request]
  -- The parts of the text that is written down have one space for each gap.
  suffices h : ∃ q, Addressed bot q ∧ q.request = p.request ∧
      Around ('@' :: (bot.toList ++ ' ' :: (p.command ++ ' ' :: p.args))) q.text by
    obtain ⟨q, addressed, same, around⟩ := h
    rw [← same, parse?_of_addressed addressed]
    rwa [same, text]
  cases h with
  | bare =>
      exact ⟨_, .bare mention, rfl, [], [' ', ' '], by decide, by decide, by simp [Parts.text]⟩
  | command _ _ hc =>
      exact ⟨_, .command mention space hc, rfl, [], [' '], by decide, by decide,
        by simp [Parts.text]⟩
  | args _ _ hc _ ne trimmed =>
      exact ⟨_, .args mention space hc space ne trimmed, rfl, [], [], by decide, by decide,
        by simp [Parts.text]⟩

theorem parse?_eq_some_iff_addressed (bot text : String) :
    (∀ r, parse? bot text = some r ↔
      ∃ p, Addressed bot p ∧ Around text.toList p.text ∧ p.request = r) ∧
    (∀ p q, Addressed bot p → Addressed bot q → Around text.toList p.text →
      Around text.toList q.text → p = q) ∧
    ∀ r, parse? bot text = some r → (r.command = "" → r.args = "") ∧
      (IsPlainName bot → parse? bot (written bot r) = some r) := by
  have parts {r : Request} (h : parse? bot text = some r) :
      ∃ p, Addressed bot p ∧ Around text.toList p.text ∧ p.request = r := by
    obtain ⟨p, addressed, eq⟩ := exists_addressed (isMention_of_parse? h) (trimmed_trim _)
    have around : Around text.toList p.text := eq ▸ around_trim _
    refine ⟨p, addressed, around, ?_⟩
    exact Option.some.inj ((parse?_of_addressed addressed around).symm.trans h)
  refine ⟨fun r => ⟨parts, ?_⟩, fun p q hp hq ap aq => ?_, fun r h => ?_⟩
  · rintro ⟨p, addressed, around, rfl⟩
    exact parse?_of_addressed addressed around
  · apply hp.eq hq
    rw [← trim_of_around ap hp.trimmed, ← trim_of_around aq hq.trimmed]
  · obtain ⟨p, addressed, -, rfl⟩ := parts h
    refine ⟨fun none => ?_, fun plain => parse?_written plain addressed⟩
    cases addressed with
    | bare => rfl
    | command _ _ hc => exact absurd (by simpa [Parts.request] using none) hc.ne_nil
    | args _ _ hc => exact absurd (by simpa [Parts.request] using none) hc.ne_nil

theorem addressed_decorated :
    parse? "appy" "@ApPy🤪   calc  (2 + 3*4)/5 " = some ⟨"calc", "(2 + 3*4)/5"⟩ ∧
    (∃ p, Addressed "appy" p ∧ Around "@ApPy🤪   calc  (2 + 3*4)/5 ".toList p.text ∧
      p.request = ⟨"calc", "(2 + 3*4)/5"⟩) ∧
    parse? "appy" "@appy calc (2 + 3*4)/5" = some ⟨"calc", "(2 + 3*4)/5"⟩ := by
  have read : parse? "appy" "@ApPy🤪   calc  (2 + 3*4)/5 " = some ⟨"calc", "(2 + 3*4)/5"⟩ := by
    decide +kernel
  obtain ⟨grammar, -, again⟩ :=
    parse?_eq_some_iff_addressed "appy" "@ApPy🤪   calc  (2 + 3*4)/5 "
  exact ⟨read, (grammar _).mp read, (again _ read).2 (by decide)⟩

end Sidekick.Request
