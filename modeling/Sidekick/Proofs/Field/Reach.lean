import Sidekick.Proofs.Field.Brackets
import Sidekick.Proofs.Text.Runs

namespace Sidekick.Field
open Text

def Begins (mark : Char) (s : List Char) : Prop := ∃ b t, Blanks b ∧ s = b ++ mark :: t

def Reached (mark : Char) (readable : List Char → Prop) (s : List Char) : Prop :=
  ∃ gap t, s = gap ++ mark :: t ∧ mark ∉ gap ∧ readable t

def IsClosed (opening closing : Char) (t : List Char) : Prop :=
  ∃ inner rest, t = inner ++ closing :: rest ∧ Nested opening closing inner

/-- An object is opened and closed before the array ends. -/
def HasObject (t : List Char) : Prop :=
  ∃ u r, t = u ++ '\x7b' :: r ∧ '\x7b' ∉ u ∧ ']' ∉ u ∧ IsClosed '\x7b' '\x7d' r

def direct (field t : List Char) : List Char := quotedName field ++ ':' :: t

/-- A look-up passes over everything up to the first mark behind the colon. -/
structure ReadsFrom {α : Type} (mark : Char) (readable : List Char → Prop)
    (lookUp : List Char → List Char → α) (nothing : α) (document field s : List Char) : Prop where
  nothing_iff : lookUp document field = nothing ↔ ¬ Reached mark readable s
  passes : ∀ gap t, s = gap ++ mark :: t → mark ∉ gap →
    lookUp document field = lookUp (direct field (mark :: t)) field

/-- A value of another kind is not read, nor is anything behind it. -/
structure KeepsToField (document field s : List Char) : Prop where
  string : ¬ Begins '\x22' s → string? document field = .ok none
  object : ¬ Begins '\x7b' s → object? document field = none
  firstObject : ¬ Begins '[' s → firstObject? document field = none
  array : ¬ Begins '[' s → array? document field = none
  strings : ¬ Begins '[' s → strings? document field = .ok none
  numbers : ¬ Begins '[' s → numbers? document field = none
  integers : ¬ Begins '[' s → integers? document field = .ok none

/-! ## Searching for a mark -/

theorem after?_eq_none_iff {c : Char} {s : List Char} : after? [c] s = none ↔ c ∉ s := by
  induction s with
  | nil => simp [after?, afterStart?]
  | cons d s ih =>
      by_cases h : d = c
      · simp [after?, afterStart?, h]
      · simp [after?, afterStart?, h, ih, Ne.symm h]

variable {α : Type} {mark : Char} {readable : List Char → Prop}
  {lookUp : List Char → List Char → α} {nothing : α} {document field s : List Char}

theorem holds_direct (field t : List Char) : Holds (direct field t) field t :=
  ⟨[], [], rfl, fun _ _ _ => Nat.zero_le _, by simp⟩

theorem mark_of_value? {gap t : List Char} (held : Holds document field (gap ++ mark :: t))
    (absent : mark ∉ gap) : (value? document field).bind (after? [mark]) = some t := by
  rw [value?_eq_some held, Option.bind_some, after?_mark absent]

theorem readsFrom_of_read (read : List Char → α) (held : Holds document field s)
    (found : ∀ d f t, (value? d f).bind (after? [mark]) = some t → lookUp d f = read t)
    (missing : ∀ d f, (value? d f).bind (after? [mark]) = none → lookUp d f = nothing)
    (unread : ∀ t, read t = nothing ↔ ¬ readable t) :
    ReadsFrom mark readable lookUp nothing document field s where
  nothing_iff := by
    by_cases present : mark ∈ s
    · obtain ⟨gap, t, rfl, absent⟩ := List.eq_append_cons_of_mem present
      rw [found _ _ _ (mark_of_value? held absent), unread]
      refine not_congr ⟨?_, ?_⟩
      · exact fun h => ⟨gap, t, rfl, absent, h⟩
      · rintro ⟨gap', t', eq, absent', h⟩
        have first := mark_of_value? held absent
        rw [eq] at held
        obtain rfl := Option.some.inj (first.symm.trans (mark_of_value? held absent'))
        exact h
    · have none : (value? document field).bind (after? [mark]) = none := by
        rw [value?_eq_some held, Option.bind_some, after?_eq_none_iff]
        exact present
      refine iff_of_true (missing _ _ none) ?_
      rintro ⟨gap, t, rfl, -, -⟩
      exact present (List.mem_append_right _ List.mem_cons_self)
  passes gap t eq absent := by
    subst eq
    have same : Holds (direct field (mark :: t)) field ([] ++ mark :: t) := holds_direct _ _
    rw [found _ _ _ (mark_of_value? held absent), found _ _ _ (mark_of_value? same (by simp))]

/-! ## What can be read from a mark on -/

theorem isClosed_iff {opening closing : Char} (distinct : closing ≠ opening) {t : List Char} :
    inside? opening closing t = none ↔ ¬ IsClosed opening closing t := by
  rw [Option.eq_none_iff_forall_ne_some]
  simp only [ne_eq, inside?_eq_some_iff distinct, IsClosed]
  constructor
  · rintro none ⟨inner, rest, eq, nested⟩
    exact none inner ⟨nested, rest, eq⟩
  · rintro none inner ⟨nested, rest, eq⟩
    exact none ⟨inner, rest, eq, nested⟩

theorem braced?_eq_none_iff {t : List Char} : braced? t = none ↔ ¬ IsClosed '\x7b' '\x7d' t := by
  rw [braced?, Option.map_eq_none_iff, isClosed_iff (by decide)]

def objectIn? (t : List Char) : Option (List Char) :=
  match t.dropWhile fun c => c != '\x7b' && c != ']' with
  | '\x7b' :: r => braced? r
  | _ => none

theorem objectIn?_append {u r : List Char} (brace : '\x7b' ∉ u) (bracket : ']' ∉ u) :
    objectIn? (u ++ '\x7b' :: r) = braced? r := by
  have run : (u ++ '\x7b' :: r).dropWhile (fun c => c != '\x7b' && c != ']') = '\x7b' :: r := by
    apply dropWhile_run _ (stops_cons (by decide) _)
    intro c hc
    have apart : c ≠ '\x7b' ∧ c ≠ ']' := ⟨fun h => brace (h ▸ hc), fun h => bracket (h ▸ hc)⟩
    simp [apart]
  rw [objectIn?, run]
  rfl

theorem objectIn?_eq_some_iff {t object : List Char} : objectIn? t = some object ↔
    ∃ u r, t = u ++ '\x7b' :: r ∧ '\x7b' ∉ u ∧ ']' ∉ u ∧ braced? r = some object := by
  constructor
  · intro found
    unfold objectIn? at found
    split at found
    · rename_i r opened
      have parts := List.takeWhile_append_dropWhile (p := fun c => c != '\x7b' && c != ']') (l := t)
      rw [opened] at parts
      have outside := List.all_eq_true.mp
        (List.all_takeWhile (p := fun c => c != '\x7b' && c != ']') (l := t))
      refine ⟨_, r, parts.symm, fun mem => ?_, fun mem => ?_, found⟩
      · exact absurd (outside _ mem) (by decide)
      · exact absurd (outside _ mem) (by decide)
    · cases found
  · rintro ⟨u, r, rfl, brace, bracket, found⟩
    rw [objectIn?_append brace bracket, found]

theorem objectIn?_eq_none_iff {t : List Char} : objectIn? t = none ↔ ¬ HasObject t := by
  constructor
  · rintro none ⟨u, r, rfl, brace, bracket, closed⟩
    rw [objectIn?_append brace bracket, braced?_eq_none_iff] at none
    exact none closed
  · intro absent
    rw [Option.eq_none_iff_forall_ne_some]
    intro object found
    obtain ⟨u, r, rfl, brace, bracket, read⟩ := objectIn?_eq_some_iff.mp found
    refine absent ⟨u, r, rfl, brace, bracket, Classical.not_not.mp fun closed => ?_⟩
    cases read.symm.trans (braced?_eq_none_iff.mpr closed)

/-! ## The look-ups -/

theorem readsFrom_string (held : Holds document field s) :
    ReadsFrom '\x22' (fun _ => True) string? (.ok none) document field s := by
  apply readsFrom_of_read (fun t => (decode t).map some) held
  · intro d f t h
    rw [string?, h]
  · intro d f h
    rw [string?, h]
  · intro t
    cases decode t with
    | error fault => simp [Except.map]
    | ok v => simp [Except.map]

theorem readsFrom_object (held : Holds document field s) :
    ReadsFrom '\x7b' (IsClosed '\x7b' '\x7d') object? none document field s := by
  apply readsFrom_of_read braced? held
  · intro d f t h
    rw [object?, h, Option.bind_some]
  · intro d f h
    rw [object?, h, Option.bind_none]
  · exact fun t => braced?_eq_none_iff

theorem readsFrom_firstObject (held : Holds document field s) :
    ReadsFrom '[' HasObject firstObject? none document field s := by
  apply readsFrom_of_read objectIn? held
  · intro d f t h
    rw [firstObject?, h]
    rfl
  · intro d f h
    rw [firstObject?, h, Option.bind_none]
  · exact fun t => objectIn?_eq_none_iff

theorem readsFrom_array (held : Holds document field s) :
    ReadsFrom '[' (IsClosed '[' ']') array? none document field s := by
  apply readsFrom_of_read (inside? '[' ']') held
  · intro d f t h
    rw [array?, h, Option.bind_some]
  · intro d f h
    rw [array?, h, Option.bind_none]
  · exact fun t => isClosed_iff (by decide)

theorem ReadsFrom.of_array {lookUp : List Char → List Char → α} (read : List Char → α)
    (array : ReadsFrom '[' (IsClosed '[' ']') array? none document field s)
    (shape : ∀ d f, lookUp d f = (array? d f).elim nothing read) (some : ∀ t, read t ≠ nothing) :
    ReadsFrom '[' (IsClosed '[' ']') lookUp nothing document field s where
  nothing_iff := by
    rw [← array.nothing_iff, shape]
    cases array? document field with
    | none => exact iff_of_true rfl rfl
    | some t => exact iff_of_false (some t) (Option.some_ne_none t)
  passes gap t eq absent := by
    rw [shape, shape, array.passes gap t eq absent]

theorem map_ne_ok_none {β γ : Type} (r : Except Fault β) (f : β → γ) :
    r.map (fun x => some (f x)) ≠ .ok none := by
  cases r <;> simp [Except.map]

theorem readsFrom_strings (held : Holds document field s) :
    ReadsFrom '[' (IsClosed '[' ']') strings? (.ok none) document field s := by
  apply (readsFrom_array held).of_array fun t => (quotedElements t).map some
  · intro d f
    rw [strings?]
    cases array? d f <;> rfl
  · exact fun t => map_ne_ok_none _ id

theorem readsFrom_numbers (held : Holds document field s) :
    ReadsFrom '[' (IsClosed '[' ']') numbers? none document field s := by
  apply (readsFrom_array held).of_array fun t => some ((elements t).filterMap Number.read?)
  · intro d f
    rw [numbers?]
    cases array? d f <;> rfl
  · exact fun t => Option.some_ne_none _

theorem readsFrom_integers (held : Holds document field s) :
    ReadsFrom '[' (IsClosed '[' ']') integers? (.ok none) document field s := by
  apply (readsFrom_array held).of_array
    fun t => (((elements t).filter isInteger).mapM integer).map some
  · intro d f
    rw [integers?]
    cases array? d f <;> rfl
  · exact fun t => map_ne_ok_none _ id

structure LookUpsRead (document field s : List Char) : Prop where
  string : ReadsFrom '\x22' (fun _ => True) string? (.ok none) document field s
  object : ReadsFrom '\x7b' (IsClosed '\x7b' '\x7d') object? none document field s
  firstObject : ReadsFrom '[' HasObject firstObject? none document field s
  array : ReadsFrom '[' (IsClosed '[' ']') array? none document field s
  strings : ReadsFrom '[' (IsClosed '[' ']') strings? (.ok none) document field s
  numbers : ReadsFrom '[' (IsClosed '[' ']') numbers? none document field s
  integers : ReadsFrom '[' (IsClosed '[' ']') integers? (.ok none) document field s

theorem lookUpsRead (held : Holds document field s) : LookUpsRead document field s :=
  ⟨readsFrom_string held, readsFrom_object held, readsFrom_firstObject held, readsFrom_array held,
    readsFrom_strings held, readsFrom_numbers held, readsFrom_integers held⟩

/-! ## Keeping to the field -/

/-- The first mark of each kind behind the colon begins the field's value, or nothing can be read
from it. -/
structure OwnMarks (s : List Char) : Prop where
  string : Begins '\x22' s ∨ '\x22' ∉ s
  object : Begins '\x7b' s ∨ ¬ Reached '\x7b' (IsClosed '\x7b' '\x7d') s
  firstObject : Begins '[' s ∨ ¬ Reached '[' HasObject s
  array : Begins '[' s ∨ ¬ Reached '[' (IsClosed '[' ']') s

theorem Reached.mem (h : Reached mark readable s) : mark ∈ s := by
  obtain ⟨gap, t, rfl, -, -⟩ := h
  exact List.mem_append_right _ List.mem_cons_self

theorem reached_of_mem (h : mark ∈ s) : Reached mark (fun _ => True) s := by
  obtain ⟨gap, t, rfl, absent⟩ := List.eq_append_cons_of_mem h
  exact ⟨gap, t, rfl, absent, trivial⟩

theorem ReadsFrom.keeps_iff (h : ReadsFrom mark readable lookUp nothing document field s) :
    (¬ Begins mark s → lookUp document field = nothing) ↔
      Begins mark s ∨ ¬ Reached mark readable s := by
  rw [h.nothing_iff, Classical.or_iff_not_imp_left]

theorem keepsToField_iff_ownMarks (held : Holds document field s) :
    (KeepsToField document field s ↔ OwnMarks s) ∧ LookUpsRead document field s := by
  have read := lookUpsRead held
  have string := read.string.keeps_iff
  rw [show Reached '\x22' (fun _ => True) s ↔ '\x22' ∈ s from ⟨Reached.mem, reached_of_mem⟩]
    at string
  refine ⟨⟨fun h => ?_, fun h => ?_⟩, read⟩
  · exact ⟨string.mp h.string, read.object.keeps_iff.mp h.object,
      read.firstObject.keeps_iff.mp h.firstObject, read.array.keeps_iff.mp h.array⟩
  · exact ⟨string.mpr h.string, read.object.keeps_iff.mpr h.object,
      read.firstObject.keeps_iff.mpr h.firstObject, read.array.keeps_iff.mpr h.array,
      read.strings.keeps_iff.mpr h.array, read.numbers.keeps_iff.mpr h.array,
      read.integers.keeps_iff.mpr h.array⟩

theorem keepsToField_iff_ownMarks_null :
    KeepsToField "\x7b\"a\":1, \"x\": null \x7d".toList ['x'] " null \x7d".toList ∧
    array? "\x7b\"n\":1,\"a\":[2]\x7d".toList ['n'] =
      array? (direct ['n'] "[2]\x7d".toList) ['n'] := by
  have null : Holds "\x7b\"a\":1, \"x\": null \x7d".toList ['x'] " null \x7d".toList :=
    ⟨"\x7b\"a\":1, ".toList, [], by decide +kernel, by decide +kernel, by decide⟩
  have number : Holds "\x7b\"n\":1,\"a\":[2]\x7d".toList ['n'] "1,\"a\":[2]\x7d".toList :=
    ⟨['\x7b'], [], by decide +kernel, by decide +kernel, by decide⟩
  have none (mark : Char) (readable : List Char → Prop) (absent : mark ∉ " null \x7d".toList) :
      ¬ Reached mark readable " null \x7d".toList := fun h => absent h.mem
  constructor
  · exact (keepsToField_iff_ownMarks null).1.mpr ⟨.inr (by decide), .inr (none _ _ (by decide)),
      .inr (none _ _ (by decide)), .inr (none _ _ (by decide))⟩
  · exact (keepsToField_iff_ownMarks number).2.array.passes "1,\"a\":".toList _ (by decide)
      (by decide)

theorem not_keepsToField_null :
    Holds "\x7b\"joke\":null,\"id\":\"7\"\x7d".toList "joke".toList
      "null,\"id\":\"7\"\x7d".toList ∧
    ¬ KeepsToField "\x7b\"joke\":null,\"id\":\"7\"\x7d".toList "joke".toList
      "null,\"id\":\"7\"\x7d".toList := by
  have found : string? "\x7b\"joke\":null,\"id\":\"7\"\x7d".toList "joke".toList =
      .ok (some "id".toList) := by rfl
  refine ⟨⟨['\x7b'], [], by decide +kernel, by decide +kernel, by decide⟩, fun keeps => ?_⟩
  have other : ¬ Begins '\x22' "null,\"id\":\"7\"\x7d".toList := by
    rintro ⟨b, t, blanks, eq⟩
    cases b with
    | nil => exact absurd (List.cons.inj eq).1 (by decide)
    | cons c b =>
        have blank := blanks c List.mem_cons_self
        rw [← (List.cons.inj eq).1] at blank
        exact absurd blank (by decide)
  rw [keeps.string other] at found
  cases found

end Sidekick.Field
