namespace Sidekick

variable {ε α β : Type}

theorem exists_of_bind_eq_ok {x : Except ε α} {f : α → Except ε β} {r : β}
    (h : x >>= f = .ok r) : ∃ a, x = .ok a ∧ f a = .ok r := by
  cases x with
  | error fault => cases h
  | ok a => exact ⟨a, rfl, h⟩

theorem error_or_of_bind_eq_error {x : Except ε α} {f : α → Except ε β} {fault : ε}
    (h : x >>= f = .error fault) : x = .error fault ∨ ∃ a, x = .ok a ∧ f a = .error fault := by
  cases x with
  | error other =>
      cases h
      exact .inl rfl
  | ok a => exact .inr ⟨a, rfl, h⟩

theorem map_eq_ok_iff {x : Except ε α} {f : α → β} {r : β} :
    x.map f = .ok r ↔ ∃ a, x = .ok a ∧ f a = r := by
  cases x with
  | error fault => exact ⟨nofun, nofun⟩
  | ok a => simp [Except.map]

theorem map_eq_error_iff {x : Except ε α} {f : α → β} {fault : ε} :
    x.map f = .error fault ↔ x = .error fault := by
  cases x with
  | error other => simp [Except.map]
  | ok a => exact ⟨nofun, nofun⟩

theorem mem_of_mapM_ok {f : α → Except ε β} {xs : List α} {ys : List β}
    (h : xs.mapM f = .ok ys) : ∀ y ∈ ys, ∃ x, f x = .ok y := by
  induction xs generalizing ys with
  | nil =>
      cases h
      exact fun _ hy => nomatch hy
  | cons x xs ih =>
      rw [List.mapM_cons] at h
      obtain ⟨y, first, h⟩ := exists_of_bind_eq_ok h
      obtain ⟨rest, later, h⟩ := exists_of_bind_eq_ok h
      cases h
      exact List.forall_mem_cons.mpr ⟨⟨x, first⟩, ih later⟩

theorem mapM_cons_eq_error_iff {f : α → Except ε β} {x : α} {xs : List α} {fault : ε} :
    (x :: xs).mapM f = .error fault ↔
      f x = .error fault ∨ (∃ r, f x = .ok r) ∧ xs.mapM f = .error fault := by
  rw [List.mapM_cons]
  cases f x with
  | error other =>
      constructor
      · rintro ⟨⟩
        exact .inl rfl
      · rintro (⟨⟨⟩⟩ | ⟨⟨_, done⟩, _⟩)
        · rfl
        · cases done
  | ok r =>
      cases xs.mapM f with
      | error other => exact ⟨fun h => .inr ⟨⟨r, rfl⟩, h⟩, fun h => h.elim nofun And.right⟩
      | ok rs => exact ⟨nofun, fun h => h.elim nofun fun later => nomatch later.2⟩

-- The first failing step ends the computation, so what stands behind it does not count.
theorem mapM_eq_error_iff {f : α → Except ε β} {xs : List α} {fault : ε} :
    xs.mapM f = .error fault ↔ ∃ before x after, xs = before ++ x :: after ∧
      (∀ y ∈ before, ∃ r, f y = .ok r) ∧ f x = .error fault := by
  induction xs with
  | nil => exact ⟨nofun, fun ⟨before, x, after, eq, _⟩ => by cases before <;> cases eq⟩
  | cons x xs ih =>
      rw [mapM_cons_eq_error_iff, ih]
      constructor
      · rintro (failed | ⟨done, before, y, after, rfl, earlier, failed⟩)
        · exact ⟨[], x, xs, rfl, nofun, failed⟩
        · exact ⟨x :: before, y, after, rfl, List.forall_mem_cons.mpr ⟨done, earlier⟩, failed⟩
      · rintro ⟨before, y, after, eq, earlier, failed⟩
        cases before with
        | nil =>
            obtain ⟨rfl, rfl⟩ := List.cons.inj eq
            exact .inl failed
        | cons z before =>
            obtain ⟨rfl, rfl⟩ := List.cons.inj eq
            obtain ⟨done, earlier⟩ := List.forall_mem_cons.mp earlier
            exact .inr ⟨done, before, y, after, rfl, earlier, failed⟩

theorem mapM_ok {f : α → Except ε β} {g : α → β} (h : ∀ a, f a = .ok (g a))
    (l : List α) : l.mapM f = .ok (l.map g) := by
  rw [funext h]
  exact List.mapM_pure

end Sidekick
