import Sidekick.Proofs.Text.Search

namespace Sidekick.Text

def Tight (s : List Char) : Prop := [] ∉ splitAt ' ' s

instance (s : List Char) : Decidable (Tight s) := inferInstanceAs (Decidable (¬ _))

theorem tight_word {s : List Char} (ne : s ≠ []) (space : ' ' ∉ s) : Tight s := by
  rw [Tight, splitAt_of_not_mem space, List.mem_singleton]
  exact Ne.symm ne

theorem Tight.words {s t : List Char} (hs : Tight s) (ht : Tight t) : Tight (s ++ ' ' :: t) := by
  rw [Tight, splitAt_append, List.mem_append, not_or]
  exact ⟨hs, ht⟩

theorem Tight.ne_nil {s : List Char} (h : Tight s) : s ≠ [] := by
  rintro rfl
  exact h List.mem_cons_self

theorem Tight.last {s t : List Char} (h : Tight s) : s ≠ t ++ [' '] := by
  rintro rfl
  rw [Tight, splitAt_append, List.mem_append, not_or] at h
  exact h.2 List.mem_cons_self

theorem Tight.apart {s t u : List Char} (h : Tight s) : s ≠ t ++ ' ' :: ' ' :: u := by
  rintro rfl
  rw [Tight, splitAt_append, List.mem_append, not_or, splitAt, if_pos rfl] at h
  exact h.2 List.mem_cons_self

theorem nil_of_tight_append {s a u v : List Char} (h : s ++ a = [] ∨ Tight (s ++ a))
    (spaces : ' ' :: ' ' :: u = a ++ ' ' :: ' ' :: v) : a = [] := by
  cases a with
  | nil => rfl
  | cons c a =>
      obtain ⟨rfl, second⟩ := List.cons.inj spaces
      rcases h with empty | tight
      · exact absurd empty (by simp)
      · cases a with
        | nil => exact absurd rfl tight.last
        | cons d a =>
            obtain ⟨rfl, -⟩ := List.cons.inj second
            exact absurd rfl tight.apart

-- A tight text, or an empty one, ends where the first two spaces stand.
theorem append_inj_of_tight {s t u v : List Char} (hs : s = [] ∨ Tight s) (ht : t = [] ∨ Tight t)
    (h : s ++ ' ' :: ' ' :: u = t ++ ' ' :: ' ' :: v) : s = t ∧ u = v := by
  rcases List.append_eq_append_iff.mp h with ⟨a, rfl, spaces⟩ | ⟨a, rfl, spaces⟩
  · obtain rfl := nil_of_tight_append ht spaces
    rw [List.nil_append] at spaces
    exact ⟨(List.append_nil s).symm, (List.cons.inj (List.cons.inj spaces).2).2⟩
  · obtain rfl := nil_of_tight_append hs spaces
    rw [List.nil_append] at spaces
    exact ⟨List.append_nil t, (List.cons.inj (List.cons.inj spaces).2).2.symm⟩

def doubleSpaced (parts : List (List Char)) : List Char := [' ', ' '].intercalate parts

theorem doubleSpaced_cons_cons (p q : List Char) (parts : List (List Char)) :
    doubleSpaced (p :: q :: parts) = p ++ ' ' :: ' ' :: doubleSpaced (q :: parts) := by
  rw [doubleSpaced, List.intercalate_cons_cons, List.append_assoc]
  rfl

theorem doubleSpaced_singleton (p : List Char) : doubleSpaced [p] = p := List.intercalate_singleton

theorem doubleSpaced_ne_nil {p : List Char} (tight : Tight p) (parts : List (List Char)) :
    doubleSpaced (p :: parts) ≠ [] := by
  cases parts with
  | nil =>
      rw [doubleSpaced_singleton]
      exact tight.ne_nil
  | cons q parts =>
      rw [doubleSpaced_cons_cons]
      simp

theorem doubleSpaced_inj_of_tight {ps qs : List (List Char)} (hp : ∀ p ∈ ps, Tight p)
    (hq : ∀ q ∈ qs, Tight q) (h : doubleSpaced ps = doubleSpaced qs) : ps = qs := by
  induction ps generalizing qs with
  | nil =>
      cases qs with
      | nil => rfl
      | cons q qs => exact absurd h.symm (doubleSpaced_ne_nil (hq q List.mem_cons_self) qs)
  | cons p ps ih =>
      have first := hp p List.mem_cons_self
      have later : ∀ p ∈ ps, Tight p := fun p mem => hp p (List.mem_cons_of_mem _ mem)
      cases qs with
      | nil => exact absurd h (doubleSpaced_ne_nil first ps)
      | cons q qs =>
          have first' := hq q List.mem_cons_self
          have later' : ∀ q ∈ qs, Tight q := fun q mem => hq q (List.mem_cons_of_mem _ mem)
          cases ps with
          | nil =>
              cases qs with
              | nil => rw [← doubleSpaced_singleton p, h, doubleSpaced_singleton]
              | cons r qs =>
                  rw [doubleSpaced_singleton, doubleSpaced_cons_cons] at h
                  exact absurd h first.apart
          | cons o ps =>
              cases qs with
              | nil =>
                  rw [doubleSpaced_singleton, doubleSpaced_cons_cons] at h
                  exact absurd h.symm first'.apart
              | cons r qs =>
                  rw [doubleSpaced_cons_cons, doubleSpaced_cons_cons] at h
                  obtain ⟨same, rest⟩ := append_inj_of_tight (.inr first) (.inr first') h
                  rw [same, ih later later' rest]

end Sidekick.Text
