import Sidekick.Proofs.Field.Scanning
import Sidekick.Proofs.Field.Texts

namespace Sidekick.Field
open Text

variable {p : Char → Bool} {s : List Char} {i j k : Nat} {x : Char}

/-! ## Passing over characters -/

def skip (p : Char → Bool) (s : List Char) (i : Nat) : Nat := i + ((s.drop i).takeWhile p).length

theorem le_skip (p : Char → Bool) (s : List Char) (i : Nat) : i ≤ skip p s i := Nat.le_add_right _ _

theorem drop_skip (p : Char → Bool) (s : List Char) (i : Nat) :
    s.drop (skip p s i) = (s.drop i).dropWhile p := by
  have parts := List.takeWhile_append_dropWhile (p := p) (l := s.drop i)
  calc s.drop (skip p s i) = (s.drop i).drop ((s.drop i).takeWhile p).length := by
        rw [skip, List.drop_drop]
    _ = ((s.drop i).takeWhile p ++ (s.drop i).dropWhile p).drop ((s.drop i).takeWhile p).length := by
        rw [parts]
    _ = (s.drop i).dropWhile p := List.drop_left

theorem of_lt_skip (le : i ≤ k) (lt : k < skip p s i) (found : s[k]? = some x) : p x = true := by
  have parts := List.takeWhile_append_dropWhile (p := p) (l := s.drop i)
  have inside : k - i < ((s.drop i).takeWhile p).length := by
    rw [skip] at lt
    omega
  have passed : ((s.drop i).takeWhile p)[k - i]? = some x := by
    rw [← List.getElem?_append_left inside, parts, List.getElem?_drop, Nat.add_sub_cancel' le,
      found]
  exact List.all_eq_true.mp List.all_takeWhile x (List.mem_of_getElem? passed)

theorem not_of_skip (found : s[skip p s i]? = some x) : p x = false := by
  have first := List.head?_dropWhile_not p (s.drop i)
  rw [← drop_skip, drop_of_getElem? found] at first
  exact first

def isSeparator (c : Char) : Bool := isBlank c || c == ','

/-- An element, from its first character up to the place behind its last one, and the text that it
is, if it is one. -/
structure Part where
  first : Nat
  behind : Nat
  text : Option (List Char)

structure Walker where
  place : Nat
  parts : List Part

namespace Walker

def start (s : List Char) (w : Walker) : Nat := skip isBlank s w.place

def afterText (s : List Char) (w : Walker) (e : Cursor) : Walker :=
  ⟨skip isSeparator s (e.place + 1), w.parts ++ [⟨w.start s, e.place + 1, some e.text⟩]⟩

def afterOther (s : List Char) (w : Walker) : Walker :=
  let comma := skip (· != ',') s (w.start s)
  ⟨comma + 1, w.parts ++ [⟨w.start s, comma, none⟩]⟩

def turn (s : List Char) (w : Walker) : Except Fault (Option Walker) :=
  match s[w.start s]? with
  | none => .ok none
  | some x =>
    if x = '\x22' then (scan s (w.start s + 1)).map fun e => some (w.afterText s e)
    else .ok (some (w.afterOther s))

def texts (w : Walker) : List (List Char) := w.parts.filterMap Part.text

end Walker

/-! ## Places -/

variable {w w' : Walker}

theorem turn_cases (h : w.turn s = .ok (some w')) :
    w.start s < s.length ∧
      ((∃ e, s[w.start s]? = some '\x22' ∧ scan s (w.start s + 1) = .ok e ∧ w' = w.afterText s e) ∨
        w' = w.afterOther s) := by
  rw [Walker.turn] at h
  split at h
  · cases h
  · rename_i x found
    refine ⟨(List.getElem?_eq_some_iff.mp found).1, ?_⟩
    split at h
    · rename_i quote
      subst quote
      obtain ⟨e, read, eq⟩ := map_eq_ok_iff.mp h
      cases eq
      exact .inl ⟨e, found, read, rfl⟩
    · cases h
      exact .inr rfl

theorem Walker.advances (h : w.turn s = .ok (some w')) :
    w.place < s.length ∧ w.place < w'.place := by
  obtain ⟨within, next⟩ := turn_cases h
  have start : w.place ≤ w.start s := le_skip _ _ _
  refine ⟨by omega, ?_⟩
  rcases next with ⟨e, -, read, rfl⟩ | rfl
  · have forward := (place_of_scan within read).1
    have behind := le_skip isSeparator s (e.place + 1)
    simp only [Walker.afterText]
    omega
  · have behind := le_skip (· != ',') s (w.start s)
    simp only [Walker.afterOther]
    omega

def walker (s : List Char) : Loop Fault Walker where
  turn := Walker.turn s
  left w := s.length - w.place
  decreases h := by
    have forward := Walker.advances h
    omega

def walk (s : List Char) : Except Fault Walker := (walker s).run ⟨0, []⟩

/-! ## Texts -/

def Walker.outcome (s : List Char) (w : Walker) : Except Fault (List (List Char)) :=
  (quotedElements (s.drop w.place)).map (w.texts ++ ·)

theorem Walker.outcome_eq (s : List Char) (w : Walker) :
    w.outcome s = Loop.settle w.texts (outcome s) (w.turn s) := by
  have begins : trimStart (s.drop w.place) = s.drop (w.start s) := (drop_skip _ _ _).symm
  rw [outcome, quotedElements_eq, begins]
  cases found : s[w.start s]? with
  | none =>
      have ended := List.drop_eq_nil_iff.mpr (List.getElem?_eq_none_iff.mp found)
      have left : w.turn s = .ok none := by rw [turn, found]
      rw [ended, left]
      simp [Except.map, Loop.settle]
  | some x =>
      rw [drop_of_getElem? found]
      by_cases quote : x = '\x22'
      · subst quote
        have next : w.turn s = (scan s (w.start s + 1)).map fun e => some (w.afterText s e) := by
          simp [turn, found]
        rw [next]
        cases read : scan s (w.start s + 1) with
        | error fault =>
            simp only [if_true, fault_of_scan read]
            rfl
        | ok e =>
            obtain ⟨text, rest⟩ := text_of_scan read
            have after : afterQuoted (s.drop (w.start s + 1)) = s.drop (w.afterText s e).place := by
              rw [afterQuoted, rest, List.drop_drop]
              exact (drop_skip _ _ _).symm
            have texts : (w.afterText s e).texts = w.texts ++ [e.text] := by
              simp [Walker.texts, afterText]
            simp only [if_true, text, after, outcome, texts, Except.map, Loop.settle]
            cases quotedElements (s.drop (w.afterText s e).place) <;>
              simp [bind, Except.bind, pure, Except.pure]
      · have next : w.turn s = .ok (some (w.afterOther s)) := by simp [turn, found, quote]
        have after : afterComma (x :: s.drop (w.start s + 1)) = s.drop (w.afterOther s).place := by
          rw [← drop_of_getElem? found, afterComma, ← drop_skip, List.drop_drop]
          rfl
        have texts : (w.afterOther s).texts = w.texts := by
          simp [Walker.texts, afterOther]
        simp only [if_neg quote, next, Loop.settle, outcome, after, texts]

/-! ## Elements -/

/-- The elements read so far stand one behind the other before the place, with nothing but blanks
and commas between them, and each text is written by the characters of its own element. -/
structure Consumed (s : List Char) (place : Nat) (parts : List Part) : Prop where
  inside : ∀ q ∈ parts, q.first < s.length ∧ q.first ≤ q.behind ∧ q.behind ≤ place
  apart : parts.Pairwise fun q r => q.behind ≤ r.first
  covers : ∀ k x, k < place → s[k]? = some x →
    (∃ q ∈ parts, q.first ≤ k ∧ k < q.behind) ∨ isSeparator x = true
  own : ∀ q ∈ parts, ∀ v, q.text = some v →
    s[q.first]? = some '\x22' ∧ decode (slice s (q.first + 1) q.behind) = .ok v

variable {place : Nat} {parts : List Part} {q : Part}

theorem consumed_nil (s : List Char) : Consumed s 0 [] where
  inside _ mem := nomatch mem
  apart := .nil
  covers _ _ lt := absurd lt (Nat.not_lt_zero _)
  own _ mem := nomatch mem

theorem Consumed.pass (h : Consumed s i parts) (le : i ≤ j)
    (between : ∀ k x, i ≤ k → k < j → s[k]? = some x → isSeparator x = true) :
    Consumed s j parts where
  inside q mem := by
    obtain ⟨within, order, before⟩ := h.inside q mem
    exact ⟨within, order, before.trans le⟩
  apart := h.apart
  covers k x lt found := by
    by_cases earlier : k < i
    · exact h.covers k x earlier found
    · exact .inr (between k x (Nat.le_of_not_lt earlier) lt found)
  own := h.own

theorem Consumed.read (h : Consumed s q.first parts) (within : q.first < s.length)
    (order : q.first ≤ q.behind)
    (own : ∀ v, q.text = some v →
      s[q.first]? = some '\x22' ∧ decode (slice s (q.first + 1) q.behind) = .ok v) :
    Consumed s q.behind (parts ++ [q]) where
  inside r mem := by
    rcases List.mem_append.mp mem with mem | mem
    · obtain ⟨within, order', before⟩ := h.inside r mem
      exact ⟨within, order', before.trans order⟩
    · obtain rfl := List.mem_singleton.mp mem
      exact ⟨within, order, Nat.le_refl _⟩
  apart := by
    rw [List.pairwise_append]
    refine ⟨h.apart, List.pairwise_singleton _ _, fun r mem r' mem' => ?_⟩
    obtain rfl := List.mem_singleton.mp mem'
    exact (h.inside r mem).2.2
  covers k x lt found := by
    by_cases earlier : k < q.first
    · refine (h.covers k x earlier found).imp_left fun ⟨r, mem, part⟩ => ?_
      exact ⟨r, List.mem_append_left _ mem, part⟩
    · exact .inl ⟨q, by simp, Nat.le_of_not_lt earlier, lt⟩
  own r mem := by
    rcases List.mem_append.mp mem with mem | mem
    · exact h.own r mem
    · obtain rfl := List.mem_singleton.mp mem
      exact own

theorem Consumed.start (h : Consumed s w.place w.parts) : Consumed s (w.start s) w.parts := by
  refine h.pass (le_skip _ _ _) fun k x le lt found => ?_
  rw [isSeparator, of_lt_skip le lt found, Bool.true_or]

theorem Consumed.turn (h : Consumed s w.place w.parts) (next : w.turn s = .ok (some w')) :
    Consumed s w'.place w'.parts := by
  obtain ⟨within, next⟩ := turn_cases next
  rcases next with ⟨e, quote, read, rfl⟩ | rfl
  · have forward := (place_of_scan within read).1
    have element := h.start.read (q := ⟨w.start s, e.place + 1, some e.text⟩) within ?_ ?_
    · exact element.pass (le_skip _ _ _) fun k x le lt found => of_lt_skip le lt found
    · simp only
      omega
    · rintro _ ⟨⟩
      exact ⟨quote, decode_slice_of_scan within read⟩
  · let comma := skip (· != ',') s (w.start s)
    have element := h.start.read (q := ⟨w.start s, comma, none⟩) within (le_skip _ _ _) nofun
    refine element.pass (Nat.le_succ _) fun k x le lt found => ?_
    obtain rfl := Nat.le_antisymm (Nat.le_of_lt_succ lt) le
    have mark := not_of_skip found
    simp at mark
    simp [isSeparator, mark]

theorem length_le_of_turn (h : w.turn s = .ok none) : s.length ≤ w.start s := by
  rw [Walker.turn] at h
  split at h
  · rename_i ended
    exact List.getElem?_eq_none_iff.mp ended
  · split at h
    · obtain ⟨_, -, eq⟩ := map_eq_ok_iff.mp h
      cases eq
    · cases h

theorem consumed_walk (read : walk s = .ok w) :
    ∃ place, s.length ≤ place ∧ Consumed s place w.parts := by
  have kept {a b : Walker} (h : Consumed s a.place a.parts)
      (next : (walker s).turn a = .ok (some b)) : Consumed s b.place b.parts := h.turn next
  obtain ⟨consumed, left⟩ := (walker s).invariant kept (consumed_nil s) read
  exact ⟨w.start s, length_le_of_turn left, consumed.start⟩

/-! ## Staying within the text -/

/-- The scan of the value at place `i` ends with what the value is decoded to, and stops at a quote or
at the end of the text. -/
structure ScansWithin (s : List Char) (i : Nat) : Prop where
  ends : ∃ n ≤ s.length - i, (scanner s).Ends n ⟨i, false, []⟩ (scan s i)
  advances : ∀ c d, (scanner s).turn c = .ok (some d) → c.place < d.place ∧ d.place ≤ s.length
  decodes : (scan s i).map (fun e => (e.text, s.drop e.place)) =
    (decode (s.drop i)).map fun v => (v, (items (s.drop i)).2)
  stops : ∀ e, scan s i = .ok e →
    i ≤ e.place ∧ e.place ≤ s.length ∧ (e.place = s.length ∨ s[e.place]? = some '\x22')

/-- The walk over the inside of an array ends with its texts, and has read all of it. -/
structure WalksForward (s : List Char) : Prop where
  ends : ∃ n ≤ s.length, (walker s).Ends n ⟨0, []⟩ (walk s)
  advances : ∀ w w', (walker s).turn w = .ok (some w') → w.place < w'.place
  reads : (walk s).map Walker.texts = quotedElements s
  consumes : ∀ w, walk s = .ok w → ∃ place, s.length ≤ place ∧ Consumed s place w.parts

theorem texts_walk (s : List Char) : (walk s).map Walker.texts = quotedElements s := by
  have whole := (walker s).map_run (Walker.outcome_eq s) ⟨0, []⟩
  have start : Walker.outcome s ⟨0, []⟩ = (quotedElements s).map ([] ++ ·) := rfl
  rw [walk, whole, start]
  cases quotedElements s <;> rfl

theorem staysWithin (s : List Char) : (∀ i ≤ s.length, ScansWithin s i) ∧ WalksForward s := by
  constructor
  · intro i le
    exact ⟨(scanner s).exists_ends ⟨i, false, []⟩, fun _ _ => place_of_turn, outcome_scan s i,
      fun _ => place_of_scan le⟩
  · exact ⟨(walker s).exists_ends ⟨0, []⟩, fun _ _ next => (Walker.advances next).2, texts_walk s,
      fun _ => consumed_walk⟩

theorem staysWithin_pair :
    (scan "\\ud83d\\ude02".toList 0).map (fun e => (e.text, "\\ud83d\\ude02".toList.drop e.place)) =
        .ok (['😂'], []) ∧
      (scan "\\ud83d\\ude0".toList 0).map (fun e => (e.text, "\\ud83d\\ude0".toList.drop e.place)) =
        .ok (['\uFFFD', 'd', 'e', '0'], []) :=
  ⟨((staysWithin "\\ud83d\\ude02".toList).1 0 (Nat.zero_le _)).decodes.trans (by decide),
    ((staysWithin "\\ud83d\\ude0".toList).1 0 (Nat.zero_le _)).decodes.trans (by decide)⟩

end Sidekick.Field
