import Sidekick.Proofs.Field.Reach

namespace Sidekick.Field
open Text

variable {opening closing : Char} {depth : Nat} {s t inner slice : List Char}

/-! ## Counting brackets -/

def Level (opening closing : Char) (s : List Char) : Prop := s.count opening = s.count closing

/-- The shortest level text at the beginning of `s`, other than the empty one. -/
structure Shortest (opening closing : Char) (s slice : List Char) : Prop where
  start : slice <+: s
  ne_nil : slice ≠ []
  level : Level opening closing slice
  least : ∀ t, t <+: s → t ≠ [] → Level opening closing t → slice.length ≤ t.length

/-- The bracket at the beginning is closed by the last character, and not before. -/
structure Enclosed (opening closing : Char) (slice : List Char) : Prop where
  ends : ∃ inner, slice = opening :: (inner ++ [closing])
  deeper : ∀ t, t <+: slice → t ≠ [] → t ≠ slice → t.count closing < t.count opening

theorem Shortest.unique {slice' : List Char} (h : Shortest opening closing s slice)
    (h' : Shortest opening closing s slice') : slice = slice' := by
  have same : slice.length = slice'.length := Nat.le_antisymm
    (h.least _ h'.start h'.ne_nil h'.level) (h'.least _ h.start h.ne_nil h.level)
  exact (List.prefix_of_prefix_length_le h.start h'.start (Nat.le_of_eq same)).eq_of_length same

theorem Enclosed.shortest (h : Enclosed opening closing slice) (level : Level opening closing slice)
    (start : slice <+: s) : Shortest opening closing s slice := by
  refine ⟨start, ?_, level, fun t ht nonempty even => ?_⟩
  · obtain ⟨inner, rfl⟩ := h.ends
    exact List.cons_ne_nil _ _
  · apply Nat.le_of_not_lt
    intro lt
    have part := List.prefix_of_prefix_length_le ht start (Nat.le_of_lt lt)
    have deeper := h.deeper t part nonempty (by rintro rfl; omega)
    exact absurd even (Nat.ne_of_gt deeper)

/-- Every bracket that is closed was opened before, in the text or as one of `depth` before it. -/
def Backed (opening closing : Char) (depth : Nat) (s : List Char) : Prop :=
  ∀ t, t <+: s → t.count closing ≤ t.count opening + depth

theorem backed_nil : Backed opening closing depth [] := by
  intro t ht
  rw [List.prefix_nil.mp ht]
  exact Nat.zero_le _

theorem Backed.cons {c : Char} {depth' : Nat} (h : Backed opening closing depth' s)
    (step : depth' + [c].count closing ≤ depth + [c].count opening) :
    Backed opening closing depth (c :: s) := by
  intro t ht
  rcases List.prefix_cons_iff.mp ht with rfl | ⟨u, rfl, hu⟩
  · simp
  · have before := h u hu
    rw [← List.singleton_append, List.count_append, List.count_append]
    omega

theorem Backed.opened (distinct : closing ≠ opening) (h : Backed opening closing (depth + 1) s) :
    Backed opening closing depth (opening :: s) :=
  h.cons (by simp [distinct.symm])

theorem Backed.closed (distinct : closing ≠ opening) (h : Backed opening closing depth s) :
    Backed opening closing (depth + 1) (closing :: s) :=
  h.cons (by simp [distinct])

theorem Backed.other {c : Char} (ho : c ≠ opening) (hc : c ≠ closing)
    (h : Backed opening closing depth s) : Backed opening closing depth (c :: s) :=
  h.cons (by simp [ho, hc])

theorem backed_of_closed? (distinct : closing ≠ opening) {a b : List Char}
    (h : closed? opening closing depth s = some (a, b)) :
    Backed opening closing depth a ∧ a.count closing = a.count opening + depth := by
  fun_induction closed? opening closing depth s generalizing a b with
  | case1 => cases h
  | case2 depth s ih =>
      obtain ⟨⟨a, b⟩, found, ⟨rfl, rfl⟩⟩ := Option.map_eq_some_iff.mp h
      obtain ⟨backed, level⟩ := ih found
      refine ⟨backed.opened distinct, ?_⟩
      rw [List.count_cons_of_ne distinct.symm, List.count_cons_self, level]
      omega
  | case3 =>
      obtain ⟨rfl, rfl⟩ := Prod.mk.inj (Option.some.inj h)
      exact ⟨backed_nil, rfl⟩
  | case4 s _ depth ih =>
      obtain ⟨⟨a, b⟩, found, ⟨rfl, rfl⟩⟩ := Option.map_eq_some_iff.mp h
      obtain ⟨backed, level⟩ := ih found
      refine ⟨backed.closed distinct, ?_⟩
      rw [List.count_cons_self, List.count_cons_of_ne distinct, level]
      omega
  | case5 depth c s ho hc ih =>
      obtain ⟨⟨a, b⟩, found, ⟨rfl, rfl⟩⟩ := Option.map_eq_some_iff.mp h
      obtain ⟨backed, level⟩ := ih found
      exact ⟨backed.other ho hc, by rwa [List.count_cons_of_ne hc, List.count_cons_of_ne ho]⟩

theorem backed_of_not_closed? (distinct : closing ≠ opening)
    (h : closed? opening closing depth s = none) : Backed opening closing depth s := by
  fun_induction closed? opening closing depth s with
  | case1 => exact backed_nil
  | case2 depth s ih => exact (ih (Option.map_eq_none_iff.mp h)).opened distinct
  | case3 => cases h
  | case4 s _ depth ih => exact (ih (Option.map_eq_none_iff.mp h)).closed distinct
  | case5 depth c s ho hc ih => exact (ih (Option.map_eq_none_iff.mp h)).other ho hc

/-! ## The inside of brackets -/

theorem level_of_inside? (distinct : closing ≠ opening)
    (h : inside? opening closing t = some inner) :
    Level opening closing (opening :: (inner ++ [closing])) := by
  obtain ⟨⟨a, b⟩, found, rfl⟩ := Option.map_eq_some_iff.mp h
  obtain ⟨-, level⟩ := backed_of_closed? distinct found
  simp [Level, distinct, distinct.symm, level]

theorem enclosed_of_inside? (distinct : closing ≠ opening)
    (h : inside? opening closing t = some inner) :
    Enclosed opening closing (opening :: (inner ++ [closing])) := by
  obtain ⟨⟨a, b⟩, found, rfl⟩ := Option.map_eq_some_iff.mp h
  obtain ⟨backed, -⟩ := backed_of_closed? distinct found
  refine ⟨⟨a, rfl⟩, fun u hu nonempty proper => ?_⟩
  obtain nil | ⟨v, rfl, hv⟩ := List.prefix_cons_iff.mp hu
  · exact absurd nil nonempty
  · rcases List.prefix_concat_iff.mp hv with all | hv
    · exact absurd (congrArg (opening :: ·) all) proper
    · have le := backed v hv
      rw [List.count_cons_self, List.count_cons_of_ne distinct.symm]
      omega

theorem shortest_of_inside? (distinct : closing ≠ opening)
    (h : inside? opening closing t = some inner) :
    Shortest opening closing (opening :: t) (opening :: (inner ++ [closing])) := by
  obtain ⟨-, rest, rfl⟩ := (inside?_eq_some_iff distinct).mp h
  exact (enclosed_of_inside? distinct h).shortest (level_of_inside? distinct h) ⟨rest, by simp⟩

theorem exists_inside? (distinct : closing ≠ opening) {u : List Char} (start : u <+: opening :: t)
    (nonempty : u ≠ []) (level : Level opening closing u) :
    ∃ inner, inside? opening closing t = some inner := by
  cases found : closed? opening closing 0 t with
  | some pair => exact ⟨pair.1, by rw [inside?, found, Option.map_some]⟩
  | none =>
      obtain nil | ⟨v, rfl, hv⟩ := List.prefix_cons_iff.mp start
      · exact absurd nil nonempty
      · have le := backed_of_not_closed? distinct found v hv
        rw [Level, List.count_cons_self, List.count_cons_of_ne distinct.symm] at level
        omega

theorem Shortest.exists_inside? (h : Shortest opening closing (opening :: t) slice)
    (distinct : closing ≠ opening) :
    ∃ inner, inside? opening closing t = some inner ∧ slice = opening :: (inner ++ [closing]) := by
  obtain ⟨inner, found⟩ := Field.exists_inside? distinct h.start h.ne_nil h.level
  exact ⟨inner, found, h.unique (shortest_of_inside? distinct found)⟩

theorem Shortest.enclosed (h : Shortest opening closing (opening :: t) slice)
    (distinct : closing ≠ opening) : Enclosed opening closing slice := by
  obtain ⟨inner, found, rfl⟩ := h.exists_inside? distinct
  exact enclosed_of_inside? distinct found

theorem Shortest.of_prefix (h : Shortest opening closing (opening :: t) slice)
    (distinct : closing ≠ opening) (start : slice <+: s) : Shortest opening closing s slice :=
  (h.enclosed distinct).shortest h.level start

theorem inside?_iff_shortest (distinct : closing ≠ opening) :
    inside? opening closing t = some inner ↔
      Shortest opening closing (opening :: t) (opening :: (inner ++ [closing])) := by
  refine ⟨shortest_of_inside? distinct, fun h => ?_⟩
  obtain ⟨inner', found, eq⟩ := h.exists_inside? distinct
  rw [found, List.append_cancel_right (List.cons.inj eq).2]

theorem braced?_iff_shortest :
    braced? t = some slice ↔ Shortest '\x7b' '\x7d' ('\x7b' :: t) slice := by
  rw [braced?, Option.map_eq_some_iff]
  constructor
  · rintro ⟨inner, found, rfl⟩
    exact shortest_of_inside? (by decide) found
  · intro h
    obtain ⟨inner, found, rfl⟩ := h.exists_inside? (by decide)
    exact ⟨inner, found, rfl⟩

/-! ## Where slices start -/

def StartsAt (mark : Char) (document field s : List Char) : Prop :=
  ∃ gap t, Holds document field (gap ++ mark :: t) ∧ mark ∉ gap ∧ s = mark :: t

/-- From the first brace in the array of the field on, the document goes on with `s`, and no closing
bracket stands before that brace. -/
def StartsInArray (document field s : List Char) : Prop :=
  ∃ u t, StartsAt '[' document field ('[' :: (u ++ '\x7b' :: t)) ∧ '\x7b' ∉ u ∧ ']' ∉ u ∧
    s = '\x7b' :: t

variable {document field : List Char} {mark : Char}

theorem StartsAt.begins (h : StartsAt mark document field s) : ∃ t, s = mark :: t := by
  obtain ⟨gap, t, -, -, rfl⟩ := h
  exact ⟨t, rfl⟩

theorem StartsInArray.begins (h : StartsInArray document field s) : ∃ t, s = '\x7b' :: t := by
  obtain ⟨u, t, -, -, -, rfl⟩ := h
  exact ⟨t, rfl⟩

theorem StartsAt.append (h : StartsAt mark document field s) (more : List Char) :
    StartsAt mark (document ++ more) field (s ++ more) := by
  obtain ⟨gap, t, held, absent, rfl⟩ := h
  have later := held.append more
  rw [List.append_assoc] at later
  exact ⟨gap, t ++ more, later, absent, rfl⟩

theorem StartsInArray.append (h : StartsInArray document field s) (more : List Char) :
    StartsInArray (document ++ more) field (s ++ more) := by
  obtain ⟨u, t, starts, brace, bracket, rfl⟩ := h
  have later := starts.append more
  rw [List.cons_append, List.append_assoc] at later
  exact ⟨u, t ++ more, later, brace, bracket, rfl⟩

theorem startsAt_iff : StartsAt mark document field s ↔
    ∃ t, (value? document field).bind (after? [mark]) = some t ∧ s = mark :: t := by
  constructor
  · rintro ⟨gap, t, held, absent, rfl⟩
    exact ⟨t, mark_of_value? held absent, rfl⟩
  · rintro ⟨t, found, rfl⟩
    obtain ⟨v, held, marked⟩ := Option.bind_eq_some_iff.mp found
    obtain ⟨gap, rfl, absent⟩ := after?_mark_iff.mp marked
    exact ⟨gap, t, value?_eq_some_iff.mp held, absent, rfl⟩

/-! ## The look-ups -/

/-- A look-up finds the shortest level text from a start on, which is `whole` of its answer. -/
structure CutsOut (starts : List Char → List Char → List Char → Prop) (opening closing : Char)
    (whole : List Char → List Char) (lookUp : List Char → List Char → Option (List Char))
    (document field : List Char) : Prop where
  exists_iff : (∃ answer, lookUp document field = some answer) ↔
    ∃ s t, starts document field s ∧ t <+: s ∧ t ≠ [] ∧ Level opening closing t
  shortest : ∀ answer, lookUp document field = some answer ↔
    ∃ s, starts document field s ∧ Shortest opening closing s (whole answer)
  enclosed : ∀ answer, lookUp document field = some answer →
    Enclosed opening closing (whole answer)
  appended : ∀ answer more, lookUp document field = some answer →
    lookUp (document ++ more) field = some answer

structure FindsShortest (document field : List Char) : Prop where
  object : CutsOut (StartsAt '\x7b') '\x7b' '\x7d' id object? document field
  array : CutsOut (StartsAt '[') '[' ']' ('[' :: · ++ [']']) array? document field
  firstObject : CutsOut StartsInArray '\x7b' '\x7d' id firstObject? document field
  again : ∀ slice, object? document field = some slice ∨ firstObject? document field = some slice →
    ∀ field' more, object? (direct field' (slice ++ more)) field' = some slice

theorem cutsOut (starts : List Char → List Char → List Char → Prop)
    (whole : List Char → List Char) (lookUp : List Char → List Char → Option (List Char))
    (distinct : closing ≠ opening)
    (begins : ∀ {d f s}, starts d f s → ∃ t, s = opening :: t)
    (append : ∀ {d f s}, starts d f s → ∀ more, starts (d ++ more) f (s ++ more))
    (wraps : ∀ inner, ∃ answer, whole answer = opening :: (inner ++ [closing]))
    (reads : ∀ d f answer, lookUp d f = some answer ↔
      ∃ s, starts d f s ∧ Shortest opening closing s (whole answer)) (document field : List Char) :
    CutsOut starts opening closing whole lookUp document field where
  exists_iff := by
    constructor
    · rintro ⟨answer, found⟩
      obtain ⟨s, start, shortest⟩ := (reads _ _ _).mp found
      exact ⟨s, _, start, shortest.start, shortest.ne_nil, shortest.level⟩
    · rintro ⟨s, u, start, part, nonempty, level⟩
      obtain ⟨t, rfl⟩ := begins start
      obtain ⟨inner, found⟩ := exists_inside? distinct part nonempty level
      obtain ⟨answer, eq⟩ := wraps inner
      refine ⟨answer, (reads _ _ _).mpr ⟨_, start, ?_⟩⟩
      rw [eq]
      exact shortest_of_inside? distinct found
  shortest := reads document field
  enclosed answer found := by
    obtain ⟨s, start, shortest⟩ := (reads _ _ _).mp found
    obtain ⟨t, rfl⟩ := begins start
    exact shortest.enclosed distinct
  appended answer more found := by
    obtain ⟨s, start, shortest⟩ := (reads _ _ _).mp found
    obtain ⟨t, rfl⟩ := begins start
    have longer := shortest.start.trans (List.prefix_append _ more)
    exact (reads _ _ _).mpr ⟨_, append start more, shortest.of_prefix distinct longer⟩

theorem object?_iff_shortest : object? document field = some slice ↔
    ∃ s, StartsAt '\x7b' document field s ∧ Shortest '\x7b' '\x7d' s slice := by
  simp only [object?, Option.bind_eq_some_iff (f := braced?), startsAt_iff, braced?_iff_shortest]
  constructor
  · rintro ⟨t, found, shortest⟩
    exact ⟨_, ⟨t, found, rfl⟩, shortest⟩
  · rintro ⟨_, ⟨t, found, rfl⟩, shortest⟩
    exact ⟨t, found, shortest⟩

theorem array?_iff_shortest : array? document field = some inner ↔
    ∃ s, StartsAt '[' document field s ∧ Shortest '[' ']' s ('[' :: (inner ++ [']'])) := by
  have distinct : ']' ≠ '[' := by decide
  simp only [array?, Option.bind_eq_some_iff (f := inside? '[' ']'), startsAt_iff,
    inside?_iff_shortest distinct]
  constructor
  · rintro ⟨t, found, shortest⟩
    exact ⟨_, ⟨t, found, rfl⟩, shortest⟩
  · rintro ⟨_, ⟨t, found, rfl⟩, shortest⟩
    exact ⟨t, found, shortest⟩

theorem firstObject?_iff_shortest : firstObject? document field = some slice ↔
    ∃ s, StartsInArray document field s ∧ Shortest '\x7b' '\x7d' s slice := by
  have shape : firstObject? document field =
      ((value? document field).bind (after? ['['])).bind objectIn? := rfl
  rw [shape, Option.bind_eq_some_iff]
  constructor
  · rintro ⟨t, found, read⟩
    obtain ⟨u, r, rfl, brace, bracket, braced⟩ := objectIn?_eq_some_iff.mp read
    have start : StartsInArray document field ('\x7b' :: r) :=
      ⟨u, r, startsAt_iff.mpr ⟨_, found, rfl⟩, brace, bracket, rfl⟩
    exact ⟨_, start, braced?_iff_shortest.mp braced⟩
  · rintro ⟨_, ⟨u, r, starts, brace, bracket, rfl⟩, shortest⟩
    obtain ⟨t, found, eq⟩ := startsAt_iff.mp starts
    obtain rfl := (List.cons.inj eq).2
    have braced := braced?_iff_shortest.mpr shortest
    exact ⟨_, found, objectIn?_eq_some_iff.mpr ⟨u, r, rfl, brace, bracket, braced⟩⟩

theorem Shortest.object?_direct (h : Shortest '\x7b' '\x7d' ('\x7b' :: t) slice)
    (field more : List Char) : object? (direct field (slice ++ more)) field = some slice := by
  have again : Shortest '\x7b' '\x7d' (slice ++ more) slice :=
    h.of_prefix (by decide) (List.prefix_append _ _)
  obtain ⟨inner, rfl⟩ := (h.enclosed (by decide)).ends
  have held := holds_direct field ('\x7b' :: (inner ++ ['\x7d']) ++ more)
  exact object?_iff_shortest.mpr ⟨_, ⟨[], _, held, List.not_mem_nil, rfl⟩, again⟩

theorem findsShortest (document field : List Char) : FindsShortest document field where
  object := cutsOut (StartsAt '\x7b') id object? (by decide) StartsAt.begins StartsAt.append
    (fun _ => ⟨_, rfl⟩) (fun _ _ _ => object?_iff_shortest) document field
  array := cutsOut (StartsAt '[') ('[' :: · ++ [']']) array? (by decide) StartsAt.begins
    StartsAt.append (fun _ => ⟨_, rfl⟩) (fun _ _ _ => array?_iff_shortest) document field
  firstObject := cutsOut StartsInArray id firstObject? (by decide) StartsInArray.begins
    StartsInArray.append (fun _ => ⟨_, rfl⟩) (fun _ _ _ => firstObject?_iff_shortest) document field
  again := by
    rintro slice (found | found) field' more
    · obtain ⟨s, start, shortest⟩ := object?_iff_shortest.mp found
      obtain ⟨t, rfl⟩ := start.begins
      exact shortest.object?_direct field' more
    · obtain ⟨s, start, shortest⟩ := firstObject?_iff_shortest.mp found
      obtain ⟨t, rfl⟩ := start.begins
      exact shortest.object?_direct field' more

theorem findsShortest_interleaved :
    object? "]\x7d\"a\" x:]\x7b[\x7b\x7d]]\x7d\x7d\x7b".toList ['a'] =
      some "\x7b[\x7b\x7d]]\x7d".toList ∧
    object? (direct ['b'] ("\x7b[\x7b\x7d]]\x7d".toList ++ ['\x7d', '\x7b'])) ['b'] =
      some "\x7b[\x7b\x7d]]\x7d".toList := by
  have found : object? "]\x7d\"a\" x:]\x7b[\x7b\x7d]]\x7d\x7d\x7b".toList ['a'] =
      some "\x7b[\x7b\x7d]]\x7d".toList := by rfl
  exact ⟨found, (findsShortest _ _).again _ (.inl found) ['b'] ['\x7d', '\x7b']⟩

end Sidekick.Field
