import Sidekick.Text.Blank
import Sidekick.Text.Search
import Sidekick.Field.Quoted

/-!
# Looking up fields

A few named values are picked out of a document without reading all of it. Each look-up goes to the
first place where the name of the field stands in double quotes, from there to the next colon, and
from there to the kind of value it is asked for. The document need not be well formed.
-/

namespace Sidekick.Field
open Text Number

/-- The text behind the colon of a field. -/
def value? (document field : List Char) : Option (List Char) :=
  (after? ('\x22' :: (field ++ ['\x22'])) document).bind (after? [':'])

/-! ## Brackets -/

/-- The text up to the bracket that closes `depth` inner brackets and one more, and the text behind
it. -/
def closed? (opening closing : Char) : Nat → List Char → Option (List Char × List Char)
  | _, [] => none
  | depth, c :: s =>
    if c = opening then (closed? opening closing (depth + 1) s).map fun (a, b) => (c :: a, b)
    else if c = closing then
      match depth with
      | 0 => some ([], s)
      | depth + 1 => (closed? opening closing depth s).map fun (a, b) => (c :: a, b)
    else (closed? opening closing depth s).map fun (a, b) => (c :: a, b)

theorem eq_of_closed? {opening closing : Char} {depth : Nat} {s a b : List Char}
    (h : closed? opening closing depth s = some (a, b)) : s = a ++ closing :: b := by
  fun_induction closed? opening closing depth s generalizing a b with
  | case1 => simp at h
  | case2 depth s ih =>
    obtain ⟨⟨a', b'⟩, hs, ⟨rfl, rfl⟩⟩ := Option.map_eq_some_iff.1 h
    rw [ih hs, List.cons_append]
  | case3 s hne =>
    obtain ⟨rfl, rfl⟩ := Prod.mk.inj (Option.some.inj h)
    rfl
  | case4 s hne depth ih =>
    obtain ⟨⟨a', b'⟩, hs, ⟨rfl, rfl⟩⟩ := Option.map_eq_some_iff.1 h
    rw [ih hs, List.cons_append]
  | case5 depth c s hne hne' ih =>
    obtain ⟨⟨a', b'⟩, hs, ⟨rfl, rfl⟩⟩ := Option.map_eq_some_iff.1 h
    rw [ih hs, List.cons_append]

/-- The inside of brackets whose opening one has been read. -/
def inside? (opening closing : Char) (s : List Char) : Option (List Char) :=
  (closed? opening closing 0 s).map (·.1)

def braced? (s : List Char) : Option (List Char) :=
  (inside? '\x7b' '\x7d' s).map fun inner => '\x7b' :: (inner ++ ['\x7d'])

def object? (document field : List Char) : Option (List Char) :=
  ((value? document field).bind (after? ['\x7b'])).bind braced?

/-- The first object of the array behind the colon, if one comes before a closing bracket. -/
def firstObject? (document field : List Char) : Option (List Char) :=
  ((value? document field).bind (after? ['['])).bind fun s =>
    match s.dropWhile fun c => c != '\x7b' && c != ']' with
    | '\x7b' :: s => braced? s
    | _ => none

def array? (document field : List Char) : Option (List Char) :=
  ((value? document field).bind (after? ['['])).bind (inside? '[' ']')

/-! ## Single values -/

def string? (document field : List Char) : Except Fault (Option (List Char)) :=
  match (value? document field).bind (after? ['\x22']) with
  | none => .ok none
  | some s => (decode s).map some

def isNumberChar (c : Char) : Bool :=
  c.isDigit || c == '-' || c == '+' || c == '.' || c == 'e' || c == 'E'

def number? (document field : List Char) : Option Float :=
  (value? document field).bind fun s => read? ((trimStart s).takeWhile isNumberChar)

/-! ## Elements of arrays -/

/-- What follows a quoted element, behind its closing quote and the blanks and commas there. -/
def afterQuoted (s : List Char) : List Char :=
  ((items s).2.drop 1).dropWhile fun c => isBlank c || c == ','

def afterComma (s : List Char) : List Char := (s.dropWhile (· != ',')).drop 1

theorem length_afterQuoted (s : List Char) : (afterQuoted s).length ≤ s.length :=
  Nat.le_trans (List.dropWhile_suffix _).length_le
    (Nat.le_trans (List.drop_suffix _ _).length_le (length_items s))

theorem length_afterComma (c : Char) (s : List Char) : (afterComma (c :: s)).length ≤ s.length := by
  have := (List.dropWhile_suffix (l := c :: s) (· != ',')).length_le
  simp only [afterComma, List.length_drop, List.length_cons] at this ⊢
  omega

theorem length_of_trimStart {s t : List Char} {c : Char} (h : trimStart s = c :: t) :
    t.length < s.length := by
  have := (List.dropWhile_suffix (l := s) isBlank).length_le
  rw [show s.dropWhile isBlank = c :: t from h] at this
  exact this

def quotedElements (s : List Char) : Except Fault (List (List Char)) :=
  match _h : trimStart s with
  | [] => .ok []
  | c :: t =>
    if c = '\x22' then do
      let first ← decode t
      return first :: (← quotedElements (afterQuoted t))
    else quotedElements (afterComma (c :: t))
termination_by s.length
decreasing_by
  · exact Nat.lt_of_le_of_lt (length_afterQuoted t) (length_of_trimStart _h)
  · exact Nat.lt_of_le_of_lt (length_afterComma c t) (length_of_trimStart _h)

def elements (s : List Char) : List (List Char) := (splitAt ',' s).map trim

def isInteger (s : List Char) : Bool :=
  let digits := (takeSign s).2
  !digits.isEmpty && digits.all isDecimalDigit

def integer (s : List Char) : Except Fault Int :=
  let (negative, digits) := takeSign s
  if maxDigits < digits.length then .error (.tooManyDigits digits.length)
  else .ok (signed negative (decimalValue digits))

/-- The texts of the array behind the colon; what is no text is passed over. -/
def strings? (document field : List Char) : Except Fault (Option (List (List Char))) :=
  match array? document field with
  | none => .ok none
  | some s => (quotedElements s).map some

def numbers? (document field : List Char) : Option (List Float) :=
  (array? document field).map fun s => (elements s).filterMap read?

def integers? (document field : List Char) : Except Fault (Option (List Int)) :=
  match array? document field with
  | none => .ok none
  | some s => (((elements s).filter isInteger).mapM integer).map some

end Sidekick.Field
