import Sidekick.Proofs.Field.Lookup

namespace Sidekick.Field
open Text

inductive Nested (opening closing : Char) : List Char → Prop
  | nil : Nested opening closing []
  | other {c : Char} {s : List Char} : c ≠ opening → c ≠ closing → Nested opening closing s →
      Nested opening closing (c :: s)
  | group {s t : List Char} : Nested opening closing s → Nested opening closing t →
      Nested opening closing (opening :: (s ++ closing :: t))

variable {opening closing : Char} {s t : List Char}

theorem nested_of_not_mem (ho : opening ∉ s) (hc : closing ∉ s) : Nested opening closing s := by
  induction s with
  | nil => exact .nil
  | cons c s ih =>
      rw [List.mem_cons, not_or] at ho hc
      exact .other (Ne.symm ho.1) (Ne.symm hc.1) (ih ho.2 hc.2)

theorem nested_append (hs : Nested opening closing s) (ht : Nested opening closing t) :
    Nested opening closing (s ++ t) := by
  induction hs with
  | nil => exact ht
  | other ho hc _ ih => exact .other ho hc ih
  | group inner _ _ ih => simpa using Nested.group inner ih

theorem nested_group (h : Nested opening closing s) :
    Nested opening closing (opening :: (s ++ [closing])) :=
  .group h .nil

theorem closed?_opening (depth : Nat) (s : List Char) :
    closed? opening closing depth (opening :: s) =
      (closed? opening closing (depth + 1) s).map fun (a, b) => (opening :: a, b) := by
  cases depth <;> rw [closed?, if_pos rfl]

theorem closed?_closing (distinct : closing ≠ opening) (depth : Nat) (s : List Char) :
    closed? opening closing (depth + 1) (closing :: s) =
      (closed? opening closing depth s).map fun (a, b) => (closing :: a, b) := by
  rw [closed?, if_neg distinct, if_pos rfl]

theorem closed?_other {c : Char} (ho : c ≠ opening) (hc : c ≠ closing) (depth : Nat)
    (s : List Char) : closed? opening closing depth (c :: s) =
      (closed? opening closing depth s).map fun (a, b) => (c :: a, b) := by
  cases depth <;> rw [closed?, if_neg ho, if_neg hc]

theorem closed?_nested (distinct : closing ≠ opening) (h : Nested opening closing s) (depth : Nat)
    (t : List Char) : closed? opening closing depth (s ++ t) =
      (closed? opening closing depth t).map fun (a, b) => (s ++ a, b) := by
  induction h generalizing depth t with
  | nil => cases found : closed? opening closing depth t <;> simp [found]
  | other ho hc _ ih =>
      rw [List.cons_append, closed?_other ho hc, ih, Option.map_map]
      rfl
  | group _ _ inner after =>
      rw [List.cons_append, closed?_opening, List.append_assoc, List.cons_append, inner,
        closed?_closing distinct, after]
      simp only [Option.map_map]
      congr 1
      funext pair
      simp

theorem inside?_nested (distinct : closing ≠ opening) (h : Nested opening closing s)
    (rest : List Char) : inside? opening closing (s ++ closing :: rest) = some s := by
  rw [inside?, closed?_nested distinct h, closed?, if_neg distinct, if_pos rfl]
  simp

/-- A text that closes `depth` brackets opened before it, and every bracket it opens. -/
def Unnests (opening closing : Char) : Nat → List Char → Prop
  | 0, s => Nested opening closing s
  | depth + 1, s =>
    ∃ n r, s = n ++ closing :: r ∧ Nested opening closing n ∧ Unnests opening closing depth r

theorem Unnests.nested_append {depth : Nat} (hn : Nested opening closing s)
    (h : Unnests opening closing depth t) : Unnests opening closing depth (s ++ t) := by
  cases depth with
  | zero => exact Field.nested_append hn h
  | succ depth =>
      obtain ⟨n, r, rfl, inner, outer⟩ := h
      exact ⟨s ++ n, r, by rw [List.append_assoc], Field.nested_append hn inner, outer⟩

theorem Unnests.group {depth : Nat} (h : Unnests opening closing (depth + 1) t) :
    Unnests opening closing depth (opening :: t) := by
  obtain ⟨n, r, rfl, inner, outer⟩ := h
  have group := outer.nested_append (nested_group inner)
  simpa using group

theorem unnests_of_closed? {depth : Nat} {a b : List Char}
    (h : closed? opening closing depth s = some (a, b)) : Unnests opening closing depth a := by
  fun_induction closed? opening closing depth s generalizing a b with
  | case1 => simp at h
  | case2 depth s ih =>
      obtain ⟨⟨a', b'⟩, hs, ⟨rfl, rfl⟩⟩ := Option.map_eq_some_iff.1 h
      exact (ih hs).group
  | case3 s ne =>
      obtain ⟨rfl, rfl⟩ := Prod.mk.inj (Option.some.inj h)
      exact Nested.nil
  | case4 s ne depth ih =>
      obtain ⟨⟨a', b'⟩, hs, ⟨rfl, rfl⟩⟩ := Option.map_eq_some_iff.1 h
      exact ⟨[], a', rfl, .nil, ih hs⟩
  | case5 depth c s ho hc ih =>
      obtain ⟨⟨a', b'⟩, hs, ⟨rfl, rfl⟩⟩ := Option.map_eq_some_iff.1 h
      exact (ih hs).nested_append (.other ho hc .nil)

theorem inside?_eq_some_iff (distinct : closing ≠ opening) {inner : List Char} :
    inside? opening closing s = some inner ↔
      Nested opening closing inner ∧ ∃ rest, s = inner ++ closing :: rest := by
  constructor
  · intro h
    obtain ⟨⟨a, b⟩, found, rfl⟩ := Option.map_eq_some_iff.mp h
    exact ⟨unnests_of_closed? found, b, eq_of_closed? found⟩
  · rintro ⟨nested, rest, rfl⟩
    exact inside?_nested distinct nested rest

def HoldsObject (document field object : List Char) : Prop :=
  ∃ gap inner after, Holds document field (gap ++ '\x7b' :: (inner ++ '\x7d' :: after)) ∧
    '\x7b' ∉ gap ∧ Nested '\x7b' '\x7d' inner ∧ object = '\x7b' :: (inner ++ ['\x7d'])

theorem object?_eq_some {document field object : List Char}
    (h : HoldsObject document field object) : object? document field = some object := by
  obtain ⟨gap, inner, after, held, brace, nested, rfl⟩ := h
  rw [object?, value?_eq_some held, Option.bind_some, after?_mark brace, Option.bind_some, braced?,
    inside?_nested (by decide) nested, Option.map_some]

theorem array?_mark {document field gap t : List Char}
    (held : Holds document field (gap ++ '[' :: t)) (bracket : '[' ∉ gap) :
    array? document field = inside? '[' ']' t := by
  rw [array?, value?_eq_some held, Option.bind_some, after?_mark bracket, Option.bind_some]

def HoldsArray (document field inner : List Char) : Prop :=
  ∃ gap after, Holds document field (gap ++ '[' :: (inner ++ ']' :: after)) ∧ '[' ∉ gap ∧
    Nested '[' ']' inner

theorem array?_eq_some {document field inner : List Char} (h : HoldsArray document field inner) :
    array? document field = some inner := by
  obtain ⟨gap, after, held, bracket, nested⟩ := h
  rw [array?_mark held bracket, inside?_nested (by decide) nested]

end Sidekick.Field
