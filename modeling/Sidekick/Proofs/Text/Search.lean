import Sidekick.Text.Search

namespace Sidekick.Text

/-- In `before ++ (key ++ rest)` the key does not occur earlier than displayed. -/
def FirstOccurrence (key before rest : List Char) : Prop :=
  ∀ x y, before ++ (key ++ rest) = x ++ (key ++ y) → before.length ≤ x.length

theorem firstOccurrence_iff {key before rest : List Char} : FirstOccurrence key before rest ↔
    ∀ n < before.length, ¬ key <+: (before ++ (key ++ rest)).drop n := by
  constructor
  · rintro first n lt ⟨y, eq⟩
    have le := first ((before ++ (key ++ rest)).take n) y (by rw [eq, List.take_append_drop])
    have short := List.length_take_le n (before ++ (key ++ rest))
    omega
  · intro absent x y eq
    apply Nat.le_of_not_lt
    intro lt
    exact absent x.length lt ⟨y, by rw [eq, List.drop_left]⟩

instance (key before rest : List Char) : Decidable (FirstOccurrence key before rest) :=
  decidable_of_iff _ firstOccurrence_iff.symm

theorem after?_append (key rest : List Char) : after? key (key ++ rest) = some rest := by
  have found : afterStart? key (key ++ rest) = some rest := afterStart?_eq_some_iff.mpr rfl
  cases text : key ++ rest with
  | nil => rwa [text] at found
  | cons c s =>
      rw [text] at found
      rw [after?, found]

theorem after?_eq_some {key before rest : List Char} (first : FirstOccurrence key before rest) :
    after? key (before ++ (key ++ rest)) = some rest := by
  induction before with
  | nil => exact after?_append key rest
  | cons c before ih =>
      have later : afterStart? key (c :: (before ++ (key ++ rest))) = none := by
        cases found : afterStart? key (c :: (before ++ (key ++ rest))) with
        | none => rfl
        | some y =>
            have start : c :: (before ++ (key ++ rest)) = key ++ y :=
              afterStart?_eq_some_iff.mp found
            cases first [] y start
      have inner : FirstOccurrence key before rest := by
        intro x y eq
        have le := first (c :: x) y (by rw [List.cons_append, eq, List.cons_append])
        exact Nat.le_of_succ_le_succ le
      rw [List.cons_append, after?, later]
      exact ih inner

theorem exists_of_after? {key s rest : List Char} (h : after? key s = some rest) :
    ∃ before, s = before ++ (key ++ rest) ∧ FirstOccurrence key before rest := by
  fun_induction after? key s with
  | case1 =>
      have eq := afterStart?_eq_some_iff.mp h
      exact ⟨[], eq, fun _ _ _ => Nat.zero_le _⟩
  | case2 c s found start =>
      cases h
      have eq := afterStart?_eq_some_iff.mp start
      exact ⟨[], eq, fun _ _ _ => Nat.zero_le _⟩
  | case3 c s start ih =>
      obtain ⟨before, rfl, first⟩ := ih h
      refine ⟨c :: before, rfl, fun x y eq => ?_⟩
      cases x with
      | nil => cases start.symm.trans (afterStart?_eq_some_iff.mpr eq)
      | cons d x => exact Nat.succ_le_succ (first x y (List.cons.inj eq).2)

theorem after?_mark {c : Char} {before : List Char} (h : c ∉ before) (rest : List Char) :
    after? [c] (before ++ c :: rest) = some rest := by
  induction before with
  | nil => exact after?_append [c] rest
  | cons d before ih =>
      have ne : d ≠ c := fun eq => h (eq ▸ List.mem_cons_self)
      rw [List.cons_append, after?, afterStart?, if_neg ne]
      exact ih fun mem => h (List.mem_cons_of_mem _ mem)

theorem after?_mark_iff {c : Char} {s rest : List Char} :
    after? [c] s = some rest ↔ ∃ before, s = before ++ c :: rest ∧ c ∉ before := by
  constructor
  · intro h
    obtain ⟨before, rfl, first⟩ := exists_of_after? h
    refine ⟨before, rfl, fun mem => ?_⟩
    obtain ⟨x, y, rfl⟩ := List.append_of_mem mem
    have le := first x (y ++ c :: rest) (by simp)
    rw [List.length_append, List.length_cons] at le
    omega
  · rintro ⟨before, rfl, absent⟩
    exact after?_mark absent rest

theorem FirstOccurrence.append {key before rest : List Char} (h : FirstOccurrence key before rest)
    (more : List Char) : FirstOccurrence key before (rest ++ more) := by
  intro x y eq
  apply Nat.le_of_not_lt
  intro lt
  -- An earlier occurrence would end before this one does, and so in the text itself.
  have earlier : x ++ key <+: before ++ (key ++ (rest ++ more)) :=
    ⟨y, by rw [eq, List.append_assoc]⟩
  have displayed : before ++ key <+: before ++ (key ++ (rest ++ more)) :=
    ⟨rest ++ more, by rw [List.append_assoc]⟩
  have shorter : (x ++ key).length ≤ (before ++ key).length := by
    simp only [List.length_append]
    omega
  obtain ⟨z, same⟩ := List.prefix_of_prefix_length_le earlier displayed shorter
  have inside : before ++ (key ++ rest) = x ++ (key ++ (z ++ rest)) := by
    rw [← List.append_assoc, ← same, List.append_assoc, List.append_assoc]
  exact absurd (h x (z ++ rest) inside) (Nat.not_le.mpr lt)

theorem splitAt_of_not_mem {mark : Char} {s : List Char} (h : mark ∉ s) : splitAt mark s = [s] := by
  induction s with
  | nil => rfl
  | cons c s ih =>
      rw [List.mem_cons, not_or] at h
      rw [splitAt, if_neg (Ne.symm h.1), ih h.2]

theorem splitAt_append (mark : Char) (s rest : List Char) :
    splitAt mark (s ++ mark :: rest) = splitAt mark s ++ splitAt mark rest := by
  induction s with
  | nil => simp [splitAt]
  | cons c s ih =>
      by_cases h : c = mark
      · rw [List.cons_append, splitAt, if_pos h, ih, splitAt, if_pos h, List.cons_append]
      · rw [List.cons_append, splitAt, if_neg h, ih, splitAt, if_neg h]
        cases parts : splitAt mark s with
        | nil =>
            have count := length_splitAt mark s
            rw [parts] at count
            cases count
        | cons part parts => rfl

end Sidekick.Text
