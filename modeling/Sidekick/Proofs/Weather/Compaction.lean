/-!
# Columns without their gaps

A column has a value or none for each row of a table; the compact column leaves out the rows without
a value.
-/

namespace Sidekick.Weather

variable {α β : Type} {f : α → Option β}

theorem exists_of_getElem?_filterMap {l : List α} {i : Nat} {b : β}
    (h : (l.filterMap f)[i]? = some b) : ∃ j a, i ≤ j ∧ l[j]? = some a ∧ f a = some b := by
  induction l generalizing i with
  | nil => cases h
  | cons a l ih =>
      cases value : f a with
      | none =>
          rw [List.filterMap_cons_none value] at h
          obtain ⟨j, c, le, found, source⟩ := ih h
          exact ⟨j + 1, c, Nat.le_succ_of_le le, found, source⟩
      | some v =>
          rw [List.filterMap_cons_some value] at h
          cases i with
          | zero => exact ⟨0, a, Nat.le_refl 0, rfl, value.trans h⟩
          | succ i =>
              obtain ⟨j, c, le, found, source⟩ := ih h
              exact ⟨j + 1, c, Nat.succ_le_succ le, found, source⟩

theorem getElem?_filterMap_of_forall_none {l : List α} {p : β → Bool}
    (h : ∀ a ∈ l, (f a).filter p = none) (i : Nat) :
    ((l.filterMap f)[i]?).filter p = none := by
  cases value : (l.filterMap f)[i]? with
  | none => rfl
  | some b =>
      obtain ⟨j, a, -, found, source⟩ := exists_of_getElem?_filterMap value
      rw [← source]
      exact h a (List.mem_of_getElem? found)

/-- No value that is shown comes after a gap. -/
def NoneAfterGap (f : α → Option β) (p : β → Bool) (l : List α) : Prop :=
  l.Pairwise fun a b => f a = none → (f b).filter p = none

instance (f : α → Option β) (p : β → Bool) (l : List α) :
    Decidable (NoneAfterGap f p l) := inferInstanceAs (Decidable (List.Pairwise _ _))

theorem shown_of_noneAfterGap {p : β → Bool} {l : List α} (h : NoneAfterGap f p l) {i : Nat} {a : α}
    (found : l[i]? = some a) : ((l.filterMap f)[i]?).filter p = (f a).filter p := by
  induction l generalizing i with
  | nil => cases found
  | cons b l ih =>
      obtain ⟨after, later⟩ := List.pairwise_cons.mp h
      cases value : f b with
      | none =>
          have hidden : ∀ c ∈ l, (f c).filter p = none := fun c hc => after c hc value
          rw [List.filterMap_cons_none value, getElem?_filterMap_of_forall_none hidden]
          cases i with
          | zero =>
              obtain rfl := Option.some.inj found
              rw [value]
              rfl
          | succ i => exact (hidden a (List.mem_of_getElem? found)).symm
      | some v =>
          rw [List.filterMap_cons_some value]
          cases i with
          | zero =>
              obtain rfl := Option.some.inj found
              rw [value]
              rfl
          | succ i => exact ih later found

-- If a column is shown one row early, a value that is shown has another one behind it.
theorem not_shown_of_early {p : β → Bool} {l : List α}
    (early : ∀ (i : Nat) (a : α), l[i]? = some a →
      (((l.filterMap f)[i + 1]?).filter p).isSome = ((f a).filter p).isSome) :
    ∀ a ∈ l, (f a).filter p = none := by
  have below : ∀ n i a, l.length - i ≤ n → l[i]? = some a → (f a).filter p = none := by
    intro n
    induction n with
    | zero =>
        intro i a bound found
        have lt := (List.getElem?_eq_some_iff.mp found).1
        omega
    | succ n ih =>
        intro i a bound found
        have same := early i a found
        cases next : (l.filterMap f)[i + 1]? with
        | none =>
            rw [next] at same
            exact Option.isNone_iff_eq_none.mp (Option.isSome_eq_false_iff.mp same.symm)
        | some b =>
            obtain ⟨j, c, le, later, source⟩ := exists_of_getElem?_filterMap next
            have hidden := ih j c (by omega) later
            rw [next, ← source, hidden] at same
            exact Option.isNone_iff_eq_none.mp (Option.isSome_eq_false_iff.mp same.symm)
  intro a mem
  obtain ⟨i, found⟩ := List.getElem?_of_mem mem
  exact below l.length i a (Nat.sub_le _ _) found

theorem noneAfterGap_of_shown {p : β → Bool} {l : List α}
    (h : ∀ (i : Nat) (a : α), l[i]? = some a →
      (((l.filterMap f)[i]?).filter p).isSome = ((f a).filter p).isSome) :
    NoneAfterGap f p l := by
  induction l with
  | nil => exact .nil
  | cons b l ih =>
      cases value : f b with
      | none =>
          rw [List.filterMap_cons_none value] at h
          have hidden := not_shown_of_early fun i a found => h (i + 1) a found
          apply List.pairwise_cons.mpr
          constructor
          · exact fun c hc _ => hidden c hc
          · exact List.pairwise_of_forall_mem_list fun _ _ c hc _ => hidden c hc
      | some v =>
          rw [List.filterMap_cons_some value] at h
          apply List.pairwise_cons.mpr
          constructor
          · intro c _ gap
            rw [value] at gap
            cases gap
          · exact ih fun i a found => h (i + 1) a found

def NoneAfterCountingGap (counts : α → Bool) (f : α → Option β) (l : List α) : Prop :=
  l.Pairwise fun a b => counts a = true → f a = none → f b = none

instance (counts : α → Bool) (f : α → Option β) (l : List α) :
    Decidable (NoneAfterCountingGap counts f l) := inferInstanceAs (Decidable (List.Pairwise _ _))

theorem present_of_noneAfterCountingGap {counts : α → Bool} {l : List α}
    (first : l.Pairwise fun a b => counts b = true → counts a = true)
    (h : NoneAfterCountingGap counts f l) {i : Nat} {a : α} (found : l[i]? = some a)
    (counted : counts a = true) : (l.filterMap f)[i]? = f a := by
  induction l generalizing i with
  | nil => cases found
  | cons b l ih =>
      obtain ⟨before, first⟩ := List.pairwise_cons.mp first
      obtain ⟨after, later⟩ := List.pairwise_cons.mp h
      cases value : f b with
      | none =>
          cases i with
          | zero =>
              obtain rfl := Option.some.inj found
              have absent : l.filterMap f = [] :=
                List.filterMap_eq_nil_iff.mpr fun c hc => after c hc counted value
              rw [List.filterMap_cons_none value, absent, value]
              rfl
          | succ i =>
              have counted' := before a (List.mem_of_getElem? found) counted
              have absent : l.filterMap f = [] :=
                List.filterMap_eq_nil_iff.mpr fun c hc => after c hc counted' value
              rw [List.filterMap_cons_none value, absent]
              exact (after a (List.mem_of_getElem? found) counted' value).symm
      | some v =>
          rw [List.filterMap_cons_some value]
          cases i with
          | zero =>
              obtain rfl := Option.some.inj found
              exact value.symm
          | succ i => exact ih first later found

theorem noneAfterCountingGap_of_present {counts : α → Bool} {l : List α}
    (first : l.Pairwise fun a b => counts b = true → counts a = true)
    (h : ∀ (i : Nat) (a : α), l[i]? = some a → counts a = true →
      ((l.filterMap f)[i]?).isSome = (f a).isSome) :
    NoneAfterCountingGap counts f l := by
  induction l with
  | nil => exact .nil
  | cons b l ih =>
      obtain ⟨before, first⟩ := List.pairwise_cons.mp first
      cases value : f b with
      | none =>
          rw [List.filterMap_cons_none value] at h
          by_cases counted : counts b = true
          · have start := h 0 b rfl counted
            rw [value] at start
            have absent : l.filterMap f = [] := by
              cases rest : l.filterMap f with
              | nil => rfl
              | cons c rest =>
                  rw [rest] at start
                  cases start
            have none := List.filterMap_eq_nil_iff.mp absent
            apply List.pairwise_cons.mpr
            constructor
            · exact fun c hc _ _ => none c hc
            · exact List.pairwise_of_forall_mem_list fun _ _ c hc _ _ => none c hc
          · apply List.pairwise_cons.mpr
            constructor
            · exact fun c _ counted' => absurd counted' counted
            · exact List.pairwise_of_forall_mem_list fun a ha _ _ counted' =>
                absurd (before a ha counted') counted
      | some v =>
          rw [List.filterMap_cons_some value] at h
          apply List.pairwise_cons.mpr
          constructor
          · intro c _ _ gap
            rw [value] at gap
            cases gap
          · exact ih first fun i a found => h (i + 1) a found

end Sidekick.Weather
