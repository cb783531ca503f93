import Sidekick.Proofs.Field.Array
import Sidekick.Proofs.Field.Failing
import Sidekick.Proofs.Field.Texts
import Sidekick.Proofs.Number.Hexadecimal

namespace Sidekick.Field
open Text Number

variable {s t : List Char} {fault : Fault}

/-! ## Scanning a quoted value -/

inductive Pieces : List Char → Prop
  | nil : Pieces []
  | plain {c : Char} {s : List Char} : c ≠ '\x22' → c ≠ '\\' → Pieces s → Pieces (c :: s)
  | escaped {c : Char} {s : List Char} : c ≠ 'u' → Pieces s → Pieces ('\\' :: c :: s)
  | unit {a b c d : Char} {s : List Char} : Pieces s → Pieces ('\\' :: 'u' :: a :: b :: c :: d :: s)

/-- The scan of a quoted value comes to a code unit, with such a text behind its `u`. -/
def Meets (p : List Char → Prop) (t : List Char) : Prop :=
  ∃ s after, t = s ++ '\\' :: 'u' :: after ∧ Pieces s ∧ p after

section

variable {p : List Char → Prop}

theorem not_meets_nil : ¬ Meets p [] := by
  rintro ⟨s, after, eq, -⟩
  simp at eq

theorem not_meets_backslash : ¬ Meets p ['\\'] := by
  rintro ⟨s, after, eq, -⟩
  have length := congrArg List.length eq
  simp at length
  omega

theorem not_meets_quote : ¬ Meets p ('\x22' :: s) := by
  rintro ⟨front, after, eq, pieces, -⟩
  cases pieces with
  | nil => exact absurd (List.cons.inj eq).1 (by decide)
  | plain quote => exact quote (List.cons.inj eq).1.symm
  | escaped | unit => exact absurd (List.cons.inj eq).1 (by decide)

theorem meets_unit {a b c d : Char} :
    Meets p ('\\' :: 'u' :: a :: b :: c :: d :: s) ↔ p (a :: b :: c :: d :: s) ∨ Meets p s := by
  constructor
  · rintro ⟨front, after, eq, pieces, h⟩
    cases pieces with
    | nil =>
        cases eq
        exact .inl h
    | plain quote backslash => exact absurd (List.cons.inj eq).1.symm backslash
    | escaped other => exact absurd (List.cons.inj (List.cons.inj eq).2).1.symm other
    | unit pieces =>
        cases eq
        exact .inr ⟨_, after, rfl, pieces, h⟩
  · rintro (h | ⟨front, after, rfl, pieces, h⟩)
    · exact ⟨[], _, rfl, .nil, h⟩
    · exact ⟨_, after, rfl, .unit pieces, h⟩

theorem meets_short (short : s.length < 4) : Meets p ('\\' :: 'u' :: s) ↔ p s := by
  constructor
  · rintro ⟨front, after, eq, pieces, h⟩
    cases pieces with
    | nil =>
        cases eq
        exact h
    | plain quote backslash => exact absurd (List.cons.inj eq).1.symm backslash
    | escaped other => exact absurd (List.cons.inj (List.cons.inj eq).2).1.symm other
    | unit pieces =>
        cases eq
        simp at short
        omega
  · exact fun h => ⟨[], s, rfl, .nil, h⟩

theorem meets_escaped {c : Char} (other : c ≠ 'u') : Meets p ('\\' :: c :: s) ↔ Meets p s := by
  constructor
  · rintro ⟨front, after, eq, pieces, h⟩
    cases pieces with
    | nil | unit => exact absurd (List.cons.inj (List.cons.inj eq).2).1 other
    | plain quote backslash => exact absurd (List.cons.inj eq).1.symm backslash
    | escaped _ pieces =>
        cases eq
        exact ⟨_, after, rfl, pieces, h⟩
  · rintro ⟨front, after, rfl, pieces, h⟩
    exact ⟨_, after, rfl, .escaped other pieces, h⟩

theorem meets_plain {c : Char} (quote : c ≠ '\x22') (backslash : c ≠ '\\') :
    Meets p (c :: s) ↔ Meets p s := by
  constructor
  · rintro ⟨front, after, eq, pieces, h⟩
    cases pieces with
    | plain _ _ pieces =>
        cases eq
        exact ⟨_, after, rfl, pieces, h⟩
    | nil | escaped | unit => exact absurd (List.cons.inj eq).1 backslash
  · rintro ⟨front, after, rfl, pieces, h⟩
    exact ⟨_, after, rfl, .plain quote backslash pieces, h⟩

end

/-! ## Negative code units -/

def IsNegative (figures : List Char) : Prop := ∃ n, readHex? figures = some n ∧ n < 0

/-- The scan of a quoted value comes to a code unit whose four characters write a negative number. -/
def ReachesNegative (t : List Char) : Prop :=
  ∃ s figures rest, t = s ++ '\\' :: 'u' :: (figures ++ rest) ∧ Pieces s ∧ figures.length = 4 ∧
    IsNegative figures

theorem isNegative_iff {figures : List Char} : IsNegative figures ↔ unitValue figures < 0 := by
  rw [IsNegative, unitValue]
  cases readHex? figures with
  | none => simp
  | some n => simp

def BeginsNegative (after : List Char) : Prop := 4 ≤ after.length ∧ IsNegative (after.take 4)

theorem reachesNegative_iff_meets : ReachesNegative t ↔ Meets BeginsNegative t := by
  constructor
  · rintro ⟨s, figures, rest, rfl, pieces, four, negative⟩
    refine ⟨s, figures ++ rest, rfl, pieces, ?_, ?_⟩
    · rw [List.length_append]
      omega
    · rwa [List.take_left' four]
  · rintro ⟨s, after, rfl, pieces, four, negative⟩
    refine ⟨s, after.take 4, after.drop 4, ?_, pieces, List.length_take_of_le four, negative⟩
    rw [List.take_append_drop]

-- The cases are those of the cutting; a unit cut short leaves too little text for a whole one.
theorem reachesNegative_iff (t : List Char) :
    ReachesNegative t ↔ ∃ i ∈ (items t).1, ¬ i.Natural := by
  rw [reachesNegative_iff_meets]
  fun_induction items t with
  | case1 => exact iff_of_false not_meets_nil (by simp)
  | case2 s => exact iff_of_false not_meets_quote (by simp)
  | case3 => exact iff_of_false not_meets_backslash (by simp)
  | case4 a b c d s found rest cut ih =>
      have figures : BeginsNegative (a :: b :: c :: d :: s) ↔ unitValue [a, b, c, d] < 0 := by
        rw [← isNegative_iff, BeginsNegative]
        exact and_iff_right (by simp)
      rw [meets_unit, figures, ih, cut]
      simp [Item.Natural]
  | case5 s short ih =>
      have few := length_lt_of_short short
      rw [meets_short few, ← ih]
      refine iff_of_false (fun h => absurd h.1 (by omega)) ?_
      rintro ⟨front, after, rfl, -, four, -⟩
      simp at few
      omega
  | case6 c s _ other found rest cut ih =>
      rw [meets_escaped other, ih, cut]
      simp [Item.Natural]
  | case7 c s quote last _ _ more found rest cut ih =>
      rw [meets_plain quote (ne_backslash last more), ih, cut]
      simp [Item.Natural]

example : ReachesNegative "a\\n\\u-1f0\\u".toList :=
  ⟨"a\\n".toList, "-1f0".toList, "\\u".toList, rfl,
    .plain (by decide) (by decide) (.escaped (by decide) .nil), rfl, -496, by decide, by decide⟩

theorem decode_eq_error_iff :
    decode t = .error fault ↔ ReachesNegative t ∧ fault = .negativeCharacter := by
  rw [reachesNegative_iff, decode_eq_error_iff_not_natural]

/-! ## Characters of code units -/

structure InRange (t : List Char) : Prop where
  single : ∀ figures, .unit figures ∈ (items t).1 → 0 ≤ unitValue figures →
    ((single (unitValue figures)).toNat : Int) =
      if isHighSurrogate (unitValue figures) || isLowSurrogate (unitValue figures) then 0xFFFD
      else unitValue figures
  joined : ∀ high low, isHighSurrogate (unitValue high) = true →
    isLowSurrogate (unitValue low) = true → ((joined (unitValue high) (unitValue low)).toNat : Int) =
      0x10000 + (unitValue high - 0xD800) * 0x400 + (unitValue low - 0xDC00)

theorem length_of_unit_mem_items {figures : List Char} (t : List Char)
    (h : .unit figures ∈ (items t).1) : figures.length = 4 := by
  fun_induction items t with
  | case1 | case2 | case3 => cases h
  | case4 a b c d s found rest cut ih =>
      rw [cut] at ih
      rcases List.mem_cons.mp h with same | later
      · cases same
        rfl
      · exact ih later
  | case5 s short ih => exact ih h
  | case6 c s _ other found rest cut ih | case7 c s _ _ _ _ _ found rest cut ih =>
      rw [cut] at ih
      rcases List.mem_cons.mp h with same | later
      · cases same
      · exact ih later

theorem unitValue_lt {figures : List Char} (four : figures.length = 4) :
    unitValue figures < 0x10000 := by
  rw [unitValue]
  cases read : readHex? figures with
  | none => decide
  | some n =>
      have below := lt_of_readHex? read
      rw [four] at below
      exact below

theorem toNat_ofNat {n : Nat} (h : n.isValidChar) : (Char.ofNat n).toNat = n := by
  rw [Char.ofNat, dif_pos h]
  rfl

theorem toNat_single {n : Int} (natural : 0 ≤ n) (lt : n < 0x10000) :
    ((single n).toNat : Int) =
      if isHighSurrogate n || isLowSurrogate n then 0xFFFD else n := by
  rw [single]
  split
  · rfl
  · rename_i half
    have valid : n.toNat.isValidChar := by
      simp only [isHighSurrogate, isLowSurrogate, Bool.or_eq_true, Bool.and_eq_true,
        decide_eq_true_eq] at half
      simp only [Nat.isValidChar]
      omega
    rw [toNat_ofNat valid, Int.toNat_of_nonneg natural]

theorem toNat_joined {high low : Int} (hh : isHighSurrogate high = true)
    (hl : isLowSurrogate low = true) :
    ((joined high low).toNat : Int) = 0x10000 + (high - 0xD800) * 0x400 + (low - 0xDC00) := by
  simp only [isHighSurrogate, isLowSurrogate, Bool.and_eq_true, decide_eq_true_eq] at hh hl
  have valid : (0x10000 + (high - 0xD800) * 0x400 + (low - 0xDC00)).toNat.isValidChar := by
    simp only [Nat.isValidChar]
    omega
  rw [joined, toNat_ofNat valid, Int.toNat_of_nonneg (by omega)]

theorem inRange (t : List Char) : InRange t where
  single _ mem natural := toNat_single natural (unitValue_lt (length_of_unit_mem_items t mem))
  joined _ _ hh hl := toNat_joined hh hl

/-! ## Walking over the elements -/

/-- The walk over the elements of an array comes to a text, behind whose opening quote `t` stands. -/
inductive Starts : List Char → List Char → Prop
  | here {s t : List Char} : trimStart s = '\x22' :: t → Starts s t
  | text {s t u : List Char} : trimStart s = '\x22' :: u → Starts (afterQuoted u) t → Starts s t
  | other {s t u : List Char} {c : Char} : trimStart s = c :: u → c ≠ '\x22' →
      Starts (afterComma (c :: u)) t → Starts s t

def WalkReachesNegative (s : List Char) : Prop := ∃ t, Starts s t ∧ ReachesNegative t

theorem walkReachesNegative_text {u : List Char} (start : trimStart s = '\x22' :: u) :
    WalkReachesNegative s ↔ ReachesNegative u ∨ WalkReachesNegative (afterQuoted u) := by
  constructor
  · rintro ⟨t, starts, negative⟩
    cases starts with
    | here found =>
        cases start.symm.trans found
        exact .inl negative
    | text found later =>
        cases start.symm.trans found
        exact .inr ⟨t, later, negative⟩
    | other found other =>
        cases start.symm.trans found
        exact absurd rfl other
  · rintro (negative | ⟨t, later, negative⟩)
    · exact ⟨u, .here start, negative⟩
    · exact ⟨t, .text start later, negative⟩

theorem walkReachesNegative_other {u : List Char} {c : Char} (start : trimStart s = c :: u)
    (other : c ≠ '\x22') : WalkReachesNegative s ↔ WalkReachesNegative (afterComma (c :: u)) := by
  constructor
  · rintro ⟨t, starts, negative⟩
    cases starts with
    | here found | text found =>
        cases start.symm.trans found
        exact absurd rfl other
    | other found _ later =>
        cases start.symm.trans found
        exact ⟨t, later, negative⟩
  · rintro ⟨t, later, negative⟩
    exact ⟨t, .other start other later, negative⟩

theorem not_walkReachesNegative_of_end (start : trimStart s = []) : ¬ WalkReachesNegative s := by
  rintro ⟨t, starts, -⟩
  cases starts with
  | here found | text found | other found => cases start.symm.trans found

theorem quotedElements_eq_error_iff (s : List Char) : quotedElements s = .error fault ↔
    WalkReachesNegative s ∧ fault = .negativeCharacter := by
  rw [quotedElements_eq]
  match start : trimStart s with
  | [] => exact iff_of_false nofun fun h => not_walkReachesNegative_of_end start h.1
  | c :: t =>
      by_cases quote : c = '\x22'
      · subst quote
        have later := quotedElements_eq_error_iff (afterQuoted t)
        rw [walkReachesNegative_text start]
        simp only [if_true]
        cases first : decode t with
        | error other =>
            obtain ⟨negative, rfl⟩ := decode_eq_error_iff.mp first
            simp only [negative, true_or, true_and]
            exact ⟨fun h => (Except.error.inj h).symm, fun h => h ▸ rfl⟩
        | ok v =>
            have natural : ¬ ReachesNegative t := by
              intro negative
              cases first.symm.trans (decode_eq_error_iff.mpr ⟨negative, rfl⟩)
            rw [or_iff_right natural, ← later]
            exact map_eq_error_iff (f := (v :: ·))
      · simp only [if_neg quote]
        rw [walkReachesNegative_other start quote]
        exact quotedElements_eq_error_iff (afterComma (c :: t))
termination_by s.length
decreasing_by
  · exact Nat.lt_of_le_of_lt (length_afterQuoted t) (length_of_trimStart start)
  · exact Nat.lt_of_le_of_lt (length_afterComma c t) (length_of_trimStart start)

/-! ## Integers with too many digits -/

def TooLong (n : Nat) (part : List Char) : Prop :=
  ∃ sign digits, IsSign sign ∧ (∀ c ∈ digits, isDecimalDigit c = true) ∧ digits.length = n ∧
    maxDigits < n ∧ part = sign ++ digits

theorem integer_eq_error_iff {part : List Char} (counts : isInteger part = true) :
    integer part = .error fault ↔ ∃ n, TooLong n part ∧ fault = .tooManyDigits n := by
  obtain ⟨sign, digits, hs, -, hd, rfl⟩ := isInteger_iff.mp counts
  rw [integer_digits hs hd]
  constructor
  · intro failed
    split at failed
    · cases failed
      exact ⟨_, ⟨sign, digits, hs, hd, rfl, ‹_›, rfl⟩, rfl⟩
    · cases failed
  · rintro ⟨n, ⟨sign', digits', hs', hd', rfl, long, eq⟩, rfl⟩
    have same := congrArg takeSign eq
    rw [takeSign_digits hs hd, takeSign_digits hs' hd'] at same
    obtain rfl : digits = digits' := congrArg Prod.snd same
    rw [if_pos long]

theorem isInteger_of_tooLong {part : List Char} {n : Nat} (h : TooLong n part) :
    isInteger part = true := by
  obtain ⟨sign, digits, hs, hd, rfl, long, rfl⟩ := h
  exact isInteger_iff.mpr ⟨sign, digits, hs, List.ne_nil_of_length_pos (by omega), hd, rfl⟩

def FirstTooLong (n : Nat) (parts : List (List Char)) : Prop :=
  ∃ before part after, parts = before ++ part :: after ∧ (∀ p ∈ before, ∀ m, ¬ TooLong m p) ∧
    TooLong n part

theorem mapM_integer_eq_error_iff {parts : List (List Char)} :
    (parts.filter isInteger).mapM integer = .error fault ↔
      ∃ n, FirstTooLong n parts ∧ fault = .tooManyDigits n := by
  constructor
  · intro failed
    obtain ⟨before, part, after, split, earlier, stopped⟩ := mapM_eq_error_iff.mp failed
    obtain ⟨front, back, rfl, rfl, behind⟩ := List.filter_eq_append_iff.mp split
    obtain ⟨skipped, rest, rfl, passed, counts, rfl⟩ := List.filter_eq_cons_iff.mp behind
    obtain ⟨n, long, rfl⟩ := (integer_eq_error_iff counts).mp stopped
    refine ⟨n, ⟨front ++ skipped, part, rest, by simp, ?_, long⟩, rfl⟩
    intro p mem m tooLong
    have counts := isInteger_of_tooLong tooLong
    rcases List.mem_append.mp mem with mem | mem
    · obtain ⟨r, read⟩ := earlier p (List.mem_filter.mpr ⟨mem, counts⟩)
      cases read.symm.trans ((integer_eq_error_iff counts).mpr ⟨m, tooLong, rfl⟩)
    · exact passed p mem counts
  · rintro ⟨n, ⟨before, part, after, rfl, none, long⟩, rfl⟩
    have counts := isInteger_of_tooLong long
    refine mapM_eq_error_iff.mpr ⟨before.filter isInteger, part, after.filter isInteger, ?_, ?_, ?_⟩
    · rw [List.filter_append, List.filter_cons_of_pos counts]
    · intro p mem
      obtain ⟨mem, counts⟩ := List.mem_filter.mp mem
      cases read : integer p with
      | ok r => exact ⟨r, rfl⟩
      | error other =>
          obtain ⟨m, tooLong, -⟩ := (integer_eq_error_iff counts).mp read
          exact absurd tooLong (none p mem m)
    · exact (integer_eq_error_iff counts).mpr ⟨n, long, rfl⟩

theorem exists_firstTooLong_iff {parts : List (List Char)} :
    (∃ n, FirstTooLong n parts) ↔ ∃ part ∈ parts, ∃ n, TooLong n part := by
  constructor
  · rintro ⟨n, before, part, after, rfl, -, long⟩
    exact ⟨part, by simp, n, long⟩
  · intro some
    induction parts with
    | nil => simp at some
    | cons p parts ih =>
        by_cases first : ∃ n, TooLong n p
        · obtain ⟨n, long⟩ := first
          exact ⟨n, [], p, parts, rfl, nofun, long⟩
        · obtain ⟨n, before, part, after, rfl, none, long⟩ := ih (by simpa [first] using some)
          exact ⟨n, p :: before, part, after, rfl,
            List.forall_mem_cons.mpr ⟨fun m tooLong => first ⟨m, tooLong⟩, none⟩, long⟩

/-! ## All look-ups -/

inductive LookUp where
  | string
  | number
  | object
  | firstObject
  | array
  | strings
  | numbers
  | integers
  deriving DecidableEq

inductive Answer where
  | text (t : List Char)
  | number (x : Float)
  | texts (ts : List (List Char))
  | numbers (xs : List Float)
  | integers (ns : List Int)

namespace LookUp

def answer (document field : List Char) : LookUp → Except Fault (Option Answer)
  | string => (string? document field).map (·.map .text)
  | number => .ok ((number? document field).map .number)
  | object => .ok ((object? document field).map .text)
  | firstObject => .ok ((firstObject? document field).map .text)
  | array => .ok ((array? document field).map .text)
  | strings => (strings? document field).map (·.map .texts)
  | numbers => .ok ((numbers? document field).map .numbers)
  | integers => (integers? document field).map (·.map .integers)

def Fails (document field : List Char) : LookUp → Prop
  | string => ∃ t, (value? document field).bind (after? ['\x22']) = some t ∧ ReachesNegative t
  | strings => ∃ s t, array? document field = some s ∧ Starts s t ∧ ReachesNegative t
  | integers => ∃ s, array? document field = some s ∧ ∃ part ∈ elements s, ∃ n, TooLong n part
  | _ => False

inductive FailsWith (document field : List Char) : LookUp → Fault → Prop
  | string : FailsWith document field string .negativeCharacter
  | strings : FailsWith document field strings .negativeCharacter
  | integers {s : List Char} {n : Nat} : array? document field = some s →
      FirstTooLong n (elements s) → FailsWith document field integers (.tooManyDigits n)

end LookUp

theorem string?_eq_error {document field : List Char} : string? document field = .error fault ↔
    LookUp.Fails document field .string ∧ fault = .negativeCharacter := by
  rw [string?_eq_error_iff, hasNegative_iff]
  simp only [LookUp.Fails, reachesNegative_iff]

theorem strings?_eq_error {document field : List Char} : strings? document field = .error fault ↔
    LookUp.Fails document field .strings ∧ fault = .negativeCharacter := by
  simp only [strings?, LookUp.Fails]
  cases array? document field with
  | none => simp
  | some s => simp [map_eq_error_iff, quotedElements_eq_error_iff, WalkReachesNegative]

theorem integers?_eq_error {document field : List Char} : integers? document field = .error fault ↔
    ∃ s n, array? document field = some s ∧ FirstTooLong n (elements s) ∧
      fault = .tooManyDigits n := by
  simp only [integers?]
  cases array? document field with
  | none => simp
  | some s => simp [map_eq_error_iff, mapM_integer_eq_error_iff]

theorem LookUp.answer_eq_error_iff {l : LookUp} {document field : List Char} :
    l.answer document field = .error fault ↔
      l.Fails document field ∧ l.FailsWith document field fault := by
  cases l with
  | number | object | firstObject | array | numbers => simp [answer, Fails]
  | string =>
      simp only [answer, map_eq_error_iff, string?_eq_error]
      exact and_congr_right fun _ => ⟨fun h => h ▸ .string, fun h => by cases h; rfl⟩
  | strings =>
      simp only [answer, map_eq_error_iff, strings?_eq_error]
      exact and_congr_right fun _ => ⟨fun h => h ▸ .strings, fun h => by cases h; rfl⟩
  | integers =>
      simp only [answer, map_eq_error_iff, integers?_eq_error]
      constructor
      · rintro ⟨s, n, found, first, rfl⟩
        exact ⟨⟨s, found, exists_firstTooLong_iff.mp ⟨n, first⟩⟩, .integers found first⟩
      · rintro ⟨-, named⟩
        cases named with
        | integers found first => exact ⟨_, _, found, first, rfl⟩

theorem LookUp.Fails.exists_fault {l : LookUp} {document field : List Char}
    (h : l.Fails document field) : ∃ fault, l.FailsWith document field fault := by
  cases l with
  | number | object | firstObject | array | numbers => exact h.elim
  | string => exact ⟨_, .string⟩
  | strings => exact ⟨_, .strings⟩
  | integers =>
      obtain ⟨s, found, long⟩ := h
      obtain ⟨n, first⟩ := exists_firstTooLong_iff.mpr long
      exact ⟨_, .integers found first⟩

theorem answer_fails_iff (l : LookUp) (document field : List Char) :
    (l.Fails document field ↔ ∃ fault, l.answer document field = .error fault) ∧
    (¬ l.Fails document field ↔ ∃ found, l.answer document field = .ok found) ∧
    (∀ fault, l.answer document field = .error fault → l.FailsWith document field fault) ∧
    ∀ t, InRange t := by
  have fails : l.Fails document field ↔ ∃ fault, l.answer document field = .error fault := by
    constructor
    · intro h
      obtain ⟨reason, named⟩ := h.exists_fault
      exact ⟨reason, LookUp.answer_eq_error_iff.mpr ⟨h, named⟩⟩
    · rintro ⟨reason, failed⟩
      exact (LookUp.answer_eq_error_iff.mp failed).1
  refine ⟨fails, ?_, fun _ failed => (LookUp.answer_eq_error_iff.mp failed).2, inRange⟩
  rw [fails]
  cases l.answer document field with
  | error reason => simp
  | ok found => simp

end Sidekick.Field
