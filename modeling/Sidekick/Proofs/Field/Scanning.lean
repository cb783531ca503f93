import Sidekick.Proofs.Field.Decoding
import Sidekick.Proofs.Loop
import Sidekick.Proofs.Number.Hexadecimal
import Sidekick.Proofs.Results

/-!
# Scanning by places

A quoted value can be scanned character by character, from a place in the text. At a code unit the
scan leaps over its figures, and over a second half behind it, the figures of which it takes without
asking whether there are four.
-/

namespace Sidekick.Field
open Number

def slice (s : List Char) (i j : Nat) : List Char := (s.drop i).take (j - i)

/-- The place of the next character, whether a backslash has just been read, and the text so far. -/
structure Cursor where
  place : Nat
  escaped : Bool
  text : List Char

namespace Cursor

def unit (s : List Char) (c : Cursor) : Int := unitValue (slice s (c.place + 1) (c.place + 5))

def second (s : List Char) (c : Cursor) : Int := unitValue (slice s (c.place + 7) (c.place + 11))

def isPair (s : List Char) (c : Cursor) : Bool :=
  isHighSurrogate (c.unit s) && slice s (c.place + 5) (c.place + 7) == ['\\', 'u'] &&
    isLowSurrogate (c.second s)

def readUnit (s : List Char) (c : Cursor) : Except Fault Cursor :=
  if c.place + 4 < s.length then
    if c.isPair s then .ok ⟨c.place + 11, false, c.text ++ [joined (c.unit s) (c.second s)]⟩
    else if c.unit s < 0 then .error .negativeCharacter
    else .ok ⟨c.place + 5, false, c.text ++ [single (c.unit s)]⟩
  else .ok ⟨c.place + 1, false, c.text⟩

def turn (s : List Char) (c : Cursor) : Except Fault (Option Cursor) :=
  match s[c.place]? with
  | none => .ok none
  | some x =>
    if c.escaped then
      if x = 'u' then (c.readUnit s).map some
      else .ok (some ⟨c.place + 1, false, c.text ++ [unescape x]⟩)
    else if x = '\\' then .ok (some ⟨c.place + 1, true, c.text⟩)
    else if x = '\x22' then .ok none
    else .ok (some ⟨c.place + 1, false, c.text ++ [x]⟩)

end Cursor

/-! ## Places -/

variable {s : List Char} {c d : Cursor}

theorem length_slice (s : List Char) (i j : Nat) :
    (slice s i j).length = min (j - i) (s.length - i) := by
  rw [slice, List.length_take, List.length_drop]

theorem four_of_isLowSurrogate {figures : List Char}
    (low : isLowSurrogate (unitValue figures) = true) : 4 ≤ figures.length := by
  simp only [isLowSurrogate, Bool.and_eq_true, decide_eq_true_eq] at low
  rw [unitValue] at low
  cases read : readHex? figures with
  | none =>
      rw [read] at low
      exact absurd low.1 (by decide)
  | some n =>
      rw [read, Option.getD_some] at low
      have below := lt_of_readHex? read
      apply Nat.le_of_not_lt
      intro few
      have small : (16 : Int) ^ figures.length ≤ 16 ^ 3 := by
        exact_mod_cast Nat.pow_le_pow_right (by decide) (Nat.le_of_lt_succ few)
      omega

theorem place_of_readUnit (within : c.place < s.length) (h : c.readUnit s = .ok d) :
    c.place < d.place ∧ d.place ≤ s.length := by
  rw [Cursor.readUnit] at h
  split at h
  · split at h
    · rename_i pair
      simp only [Cursor.isPair, Bool.and_eq_true] at pair
      have four := four_of_isLowSurrogate pair.2
      rw [length_slice] at four
      cases h
      simp only
      omega
    · split at h
      · cases h
      · cases h
        simp only
        omega
  · cases h
    simp only
    omega

theorem place_of_turn (h : c.turn s = .ok (some d)) : c.place < d.place ∧ d.place ≤ s.length := by
  rw [Cursor.turn] at h
  split at h
  · cases h
  · rename_i x found
    have within : c.place < s.length := (List.getElem?_eq_some_iff.mp found).1
    split at h
    · split at h
      · obtain ⟨e, read, eq⟩ := map_eq_ok_iff.mp h
        cases eq
        exact place_of_readUnit within read
      · cases h
        exact ⟨Nat.lt_succ_self _, within⟩
    · split at h
      · cases h
        exact ⟨Nat.lt_succ_self _, within⟩
      · split at h
        · cases h
        · cases h
          exact ⟨Nat.lt_succ_self _, within⟩

theorem stops_of_turn (h : c.turn s = .ok none) :
    s.length ≤ c.place ∨ s[c.place]? = some '\x22' := by
  rw [Cursor.turn] at h
  split at h
  · rename_i ended
    exact .inl (List.getElem?_eq_none_iff.mp ended)
  · rename_i x found
    split at h
    · split at h
      · obtain ⟨_, -, eq⟩ := map_eq_ok_iff.mp h
        cases eq
      · cases h
    · split at h
      · cases h
      · split at h
        · rename_i quote
          exact .inr (quote ▸ found)
        · cases h

def scanner (s : List Char) : Loop Fault Cursor where
  turn := Cursor.turn s
  left c := s.length - c.place
  decreases h := by
    have forward := place_of_turn h
    omega

/-- The scan of the value whose opening quote stands before place `i`. -/
def scan (s : List Char) (i : Nat) : Except Fault Cursor := (scanner s).run ⟨i, false, []⟩

/-! ## Decoding -/

theorem exists_of_items_unit {t figures : List Char} {is : List Item}
    (h : (items t).1 = .unit figures :: is) :
    ∃ rest, t = '\\' :: 'u' :: (figures ++ rest) ∧ figures.length = 4 := by
  fun_induction items t with
  | case1 | case2 | case3 | case6 | case7 => cases h
  | case4 a b c d s =>
      cases h
      exact ⟨s, rfl, rfl⟩
  | case5 s short ih =>
      obtain ⟨rest, rfl, four⟩ := ih h
      have few := length_lt_of_short short
      simp only [List.length_cons, List.length_append] at few
      omega

theorem decodeItems_pair {high low : List Char} {is : List Item}
    (first : isHighSurrogate (unitValue high) = true)
    (second : isLowSurrogate (unitValue low) = true) :
    decodeItems (.unit high :: .unit low :: is) =
      (decodeItems is).map (joined (unitValue high) (unitValue low) :: ·) := by
  rw [decodeItems, first, second, Bool.and_self, if_pos rfl]
  cases decodeItems is <;> rfl

theorem decodeItems_single {figures : List Char} {is : List Item}
    (alone : ∀ low rest, is = .unit low :: rest →
      (isHighSurrogate (unitValue figures) && isLowSurrogate (unitValue low)) = false) :
    decodeItems (.unit figures :: is) =
      if unitValue figures < 0 then .error .negativeCharacter
      else (decodeItems is).map (single (unitValue figures) :: ·) := by
  by_cases second : ∃ low rest, is = .unit low :: rest
  · obtain ⟨low, rest, rfl⟩ := second
    rw [decodeItems, alone low rest rfl, if_neg Bool.false_ne_true]
    cases decodeItems (.unit low :: rest) <;> rfl
  · rw [decodeItems]
    · cases decodeItems is <;> rfl
    · exact fun low rest eq => second ⟨low, rest, eq⟩

theorem decode_plain {x : Char} (quote : x ≠ '\x22') (backslash : x ≠ '\\') (t : List Char) :
    decode (x :: t) = (decode t).map (x :: ·) := by
  rw [decode, items_plain quote backslash, decodeItems, ← decode]
  cases decode t <;> rfl

theorem decode_escaped {x : Char} (other : x ≠ 'u') (t : List Char) :
    decode ('\\' :: x :: t) = (decode t).map (unescape x :: ·) := by
  rw [decode, items_escaped other, decodeItems, ← decode]
  cases decode t <;> rfl

theorem drop_of_getElem? {x : Char} {i : Nat} (found : s[i]? = some x) :
    s.drop i = x :: s.drop (i + 1) := by
  obtain ⟨lt, rfl⟩ := List.getElem?_eq_some_iff.mp found
  exact List.drop_eq_getElem_cons lt

namespace Cursor

def rest (s : List Char) (c : Cursor) : List Char :=
  if c.escaped then '\\' :: s.drop c.place else s.drop c.place

/-- The text of the value, and what follows from its closing quote on. -/
def outcome (s : List Char) (c : Cursor) : Except Fault (List Char × List Char) :=
  (decode (c.rest s)).map fun v => (c.text ++ v, (items (c.rest s)).2)

theorem rest_eq {x : Char} (escaped : c.escaped = false) (found : s[c.place]? = some x) :
    c.rest s = x :: s.drop (c.place + 1) := by
  rw [rest, escaped, if_neg Bool.false_ne_true, drop_of_getElem? found]

theorem rest_of_escaped {x : Char} (escaped : c.escaped = true) (found : s[c.place]? = some x) :
    c.rest s = '\\' :: x :: s.drop (c.place + 1) := by
  rw [rest, escaped, if_pos rfl, drop_of_getElem? found]

theorem outcome_next (s : List Char) (i : Nat) (out : List Char) (x : Char) :
    outcome s ⟨i, false, out ++ [x]⟩ =
      ((decode (s.drop i)).map (x :: ·)).map fun v => (out ++ v, (items (s.drop i)).2) := by
  rw [outcome, rest, if_neg Bool.false_ne_true]
  cases decode (s.drop i) <;> simp [Except.map]

theorem unit_eq (s : List Char) (c : Cursor) :
    c.unit s = unitValue ((s.drop (c.place + 1)).take 4) := by
  rw [unit, slice, Nat.add_sub_add_left]

theorem second_eq (s : List Char) (c : Cursor) :
    c.second s = unitValue (((s.drop (c.place + 5)).drop 2).take 4) := by
  rw [second, slice, Nat.add_sub_add_left, List.drop_drop]

theorem second_of_drop {low rest : List Char}
    (behind : s.drop (c.place + 5) = '\\' :: 'u' :: (low ++ rest)) (four : low.length = 4) :
    c.second s = unitValue low := by
  rw [second_eq, behind, List.drop_succ_cons, List.drop_succ_cons, List.drop_zero,
    List.take_left' four]

theorem isPair_iff : c.isPair s = true ↔ isHighSurrogate (c.unit s) = true ∧
    ∃ low rest, s.drop (c.place + 5) = '\\' :: 'u' :: (low ++ rest) ∧ low.length = 4 ∧
      isLowSurrogate (unitValue low) = true := by
  have mark : slice s (c.place + 5) (c.place + 7) = (s.drop (c.place + 5)).take 2 := by
    rw [slice, Nat.add_sub_add_left]
  simp only [isPair, Bool.and_eq_true, beq_iff_eq, and_assoc, mark]
  refine and_congr_right fun _ => ⟨fun ⟨marked, low⟩ => ?_, ?_⟩
  · rw [second_eq] at low
    have four := four_of_isLowSurrogate low
    have cut := List.take_append_drop 2 (s.drop (c.place + 5))
    generalize (s.drop (c.place + 5)).drop 2 = t at low four cut
    rw [List.length_take] at four
    refine ⟨t.take 4, t.drop 4, ?_, List.length_take_of_le (by omega), low⟩
    rw [List.take_append_drop, ← cut, marked]
    rfl
  · rintro ⟨low, rest, behind, four, half⟩
    rw [second_of_drop behind four, behind]
    exact ⟨rfl, half⟩

theorem outcome_unit (escaped : c.escaped = true) (found : s[c.place]? = some 'u')
    (four : c.place + 4 < s.length) :
    c.outcome s = (decodeItems (.unit ((s.drop (c.place + 1)).take 4) ::
      (items (s.drop (c.place + 5))).1)).map fun v =>
        (c.text ++ v, (items (s.drop (c.place + 5))).2) := by
  have enough : 4 ≤ (s.drop (c.place + 1)).length := by
    rw [List.length_drop]
    omega
  rw [outcome, rest_of_escaped escaped found, decode, items_unit enough, List.drop_drop]

theorem outcome_pair (escaped : c.escaped = true) (found : s[c.place]? = some 'u')
    (four : c.place + 4 < s.length) (pair : c.isPair s = true) :
    c.outcome s = outcome s ⟨c.place + 11, false, c.text ++ [joined (c.unit s) (c.second s)]⟩ := by
  obtain ⟨high, low, rest, behind, enough, half⟩ := isPair_iff.mp pair
  have figures : (low ++ rest).take 4 = low := List.take_left' enough
  have last : (low ++ rest).drop 4 = rest := List.drop_left' enough
  have after : s.drop (c.place + 11) = rest := by
    have cut := congrArg (List.drop 6) behind
    rwa [List.drop_drop, List.drop_succ_cons, List.drop_succ_cons, last] at cut
  have units : items (s.drop (c.place + 5)) = (.unit low :: (items rest).1, (items rest).2) := by
    rw [behind, items_unit (by simp [enough]), figures, last]
  rw [unit_eq] at high
  rw [outcome_unit escaped found four, units, decodeItems_pair high half, outcome_next, after,
    unit_eq, second_of_drop behind enough, ← decode]

theorem outcome_single (escaped : c.escaped = true) (found : s[c.place]? = some 'u')
    (four : c.place + 4 < s.length) (pair : ¬ c.isPair s = true) :
    c.outcome s = if c.unit s < 0 then .error .negativeCharacter
      else outcome s ⟨c.place + 5, false, c.text ++ [single (c.unit s)]⟩ := by
  rw [outcome_unit escaped found four, decodeItems_single, ← unit_eq]
  · split
    · rfl
    · rw [outcome_next, decode]
  · intro low is second
    rw [← unit_eq, Bool.and_eq_false_iff]
    by_contra halves
    obtain ⟨high, half⟩ := not_or.mp halves
    obtain ⟨rest, behind, enough⟩ := exists_of_items_unit second
    exact pair (isPair_iff.mpr ⟨by simpa using high, low, rest, behind, enough, by simpa using half⟩)

theorem outcome_readUnit (escaped : c.escaped = true) (found : s[c.place]? = some 'u') :
    c.outcome s =
      match c.readUnit s with
      | .error fault => .error fault
      | .ok d => d.outcome s := by
  rw [readUnit]
  by_cases four : c.place + 4 < s.length
  · rw [if_pos four]
    by_cases pair : c.isPair s = true
    · rw [if_pos pair, outcome_pair escaped found four pair]
    · rw [if_neg pair, outcome_single escaped found four pair]
      split <;> rfl
  · have few : (s.drop (c.place + 1)).length < 4 := by
      rw [List.length_drop]
      omega
    rw [if_neg four, outcome, rest_of_escaped escaped found, decode, items_short few, ← decode]
    rfl

theorem outcome_eq (s : List Char) (c : Cursor) :
    c.outcome s = Loop.settle (c.text, s.drop c.place) (outcome s) (c.turn s) := by
  cases found : s[c.place]? with
  | none =>
      have ended := List.drop_eq_nil_iff.mpr (List.getElem?_eq_none_iff.mp found)
      have stops : c.turn s = .ok none := by rw [turn, found]
      have rest : c.rest s = [] ∨ c.rest s = ['\\'] := by
        rw [Cursor.rest, ended]
        cases c.escaped <;> simp
      rw [stops, ended, outcome]
      rcases rest with rest | rest <;>
        simp [rest, decode, items, decodeItems, Except.map, Loop.settle]
  | some x =>
      cases escaped : c.escaped with
      | false =>
          rw [outcome, rest_eq escaped found]
          by_cases backslash : x = '\\'
          · have next : c.turn s = .ok (some ⟨c.place + 1, true, c.text⟩) := by
              simp [turn, found, escaped, backslash]
            rw [next, backslash]
            rfl
          · by_cases quote : x = '\x22'
            · have stops : c.turn s = .ok none := by simp [turn, found, escaped, quote]
              rw [stops, drop_of_getElem? found, quote, decode, items, decodeItems]
              simp [Except.map, Loop.settle]
            · have next : c.turn s = .ok (some ⟨c.place + 1, false, c.text ++ [x]⟩) := by
                simp [turn, found, escaped, backslash, quote]
              rw [next, decode_plain quote backslash, items_plain quote backslash]
              exact (outcome_next _ _ _ _).symm
      | true =>
          by_cases unit : x = 'u'
          · subst unit
            have next : c.turn s = (c.readUnit s).map some := by simp [turn, found, escaped]
            rw [next, outcome_readUnit escaped found]
            cases c.readUnit s <;> rfl
          · have next : c.turn s = .ok (some ⟨c.place + 1, false, c.text ++ [unescape x]⟩) := by
              simp [turn, found, escaped, unit]
            rw [next, outcome, rest_of_escaped escaped found, decode_escaped unit,
              items_escaped unit]
            exact (outcome_next _ _ _ _).symm

end Cursor

/-! ## Whole values -/

variable {e : Cursor} {i : Nat}

theorem outcome_scan (s : List Char) (i : Nat) :
    (scan s i).map (fun e => (e.text, s.drop e.place)) =
      (decode (s.drop i)).map fun v => (v, (items (s.drop i)).2) := by
  have whole := (scanner s).map_run (Cursor.outcome_eq s) ⟨i, false, []⟩
  exact whole

theorem text_of_scan (h : scan s i = .ok e) :
    decode (s.drop i) = .ok e.text ∧ (items (s.drop i)).2 = s.drop e.place := by
  have same := outcome_scan s i
  rw [h] at same
  obtain ⟨v, read, eq⟩ := map_eq_ok_iff.mp same.symm
  obtain ⟨rfl, rest⟩ := Prod.mk.inj eq
  exact ⟨read, rest⟩

theorem fault_of_scan {fault : Fault} (h : scan s i = .error fault) :
    decode (s.drop i) = .error fault := by
  have same := outcome_scan s i
  rw [h] at same
  exact map_eq_error_iff.mp same.symm

theorem place_of_scan (le : i ≤ s.length) (h : scan s i = .ok e) :
    i ≤ e.place ∧ e.place ≤ s.length ∧ (e.place = s.length ∨ s[e.place]? = some '\x22') := by
  have kept {c d : Cursor} (within : i ≤ c.place ∧ c.place ≤ s.length)
      (next : (scanner s).turn c = .ok (some d)) : i ≤ d.place ∧ d.place ≤ s.length := by
    have forward := place_of_turn next
    omega
  obtain ⟨⟨low, high⟩, last⟩ := (scanner s).invariant kept ⟨Nat.le_refl i, le⟩ h
  refine ⟨low, high, (stops_of_turn last).imp_left fun ended => Nat.le_antisymm high ended⟩

-- An unfinished code unit before the closing quote stays unfinished if nothing stands behind.
theorem items_closed {t r : List Char} (h : (items t).2 = '\x22' :: r) :
    ∃ u, t = u ++ '\x22' :: r ∧ items (u ++ ['\x22']) = ((items t).1, ['\x22']) := by
  fun_induction items t with
  | case1 | case3 => cases h
  | case2 s =>
      cases h
      exact ⟨[], rfl, rfl⟩
  | case4 a b c d s found rest cut ih =>
      rw [cut] at ih
      obtain ⟨u, rfl, same⟩ := ih h
      refine ⟨'\\' :: 'u' :: a :: b :: c :: d :: u, rfl, ?_⟩
      simp only [List.cons_append, items, same]
  | case5 s short ih =>
      obtain ⟨u, rfl, same⟩ := ih h
      have few := length_lt_of_short short
      refine ⟨'\\' :: 'u' :: u, rfl, ?_⟩
      rw [List.cons_append, List.cons_append, items_short, same]
      simp only [List.length_append, List.length_cons, List.length_nil] at few ⊢
      omega
  | case6 x s _ other found rest cut ih =>
      rw [cut] at ih
      obtain ⟨u, rfl, same⟩ := ih h
      refine ⟨'\\' :: x :: u, rfl, ?_⟩
      rw [List.cons_append, List.cons_append, items_escaped other, same]
  | case7 x s quote last _ _ more found rest cut ih =>
      rw [cut] at ih
      obtain ⟨u, rfl, same⟩ := ih h
      refine ⟨x :: u, rfl, ?_⟩
      rw [List.cons_append, items_plain quote (ne_backslash last more), same]

theorem decode_slice_of_scan (le : i ≤ s.length) (h : scan s i = .ok e) :
    decode (slice s i (e.place + 1)) = .ok e.text := by
  obtain ⟨text, rest⟩ := text_of_scan h
  obtain ⟨low, high, ended | quote⟩ := place_of_scan le h
  · rw [slice, List.take_of_length_le, text]
    rw [List.length_drop]
    omega
  · rw [drop_of_getElem? quote] at rest
    obtain ⟨u, cut, same⟩ := items_closed rest
    have length := congrArg List.length cut
    have place := (List.getElem?_eq_some_iff.mp quote).1
    simp only [List.length_append, List.length_cons, List.length_drop] at length
    have part : slice s i (e.place + 1) = u ++ ['\x22'] := by
      rw [slice, cut, show e.place + 1 - i = u.length + 1 by omega, List.take_length_add_append]
      rfl
    rw [part, decode, same, ← text, decode]

end Sidekick.Field
