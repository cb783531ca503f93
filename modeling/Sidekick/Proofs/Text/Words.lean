import Sidekick.Proofs.Text.Runs

namespace Sidekick.Text

structure IsGap (g : List Char) : Prop where
  ne_nil : g ≠ []
  blanks : Blanks g

structure IsWord (w : List Char) : Prop where
  ne_nil : w ≠ []
  no_blank : ∀ c ∈ w, isBlank c = false

instance (g : List Char) : Decidable (IsGap g) :=
  decidable_of_iff (g ≠ [] ∧ Blanks g) ⟨fun ⟨h₁, h₂⟩ => ⟨h₁, h₂⟩, fun ⟨h₁, h₂⟩ => ⟨h₁, h₂⟩⟩

instance (w : List Char) : Decidable (IsWord w) :=
  decidable_of_iff (w ≠ [] ∧ ∀ c ∈ w, isBlank c = false) ⟨fun ⟨h₁, h₂⟩ => ⟨h₁, h₂⟩,
    fun ⟨h₁, h₂⟩ => ⟨h₁, h₂⟩⟩

def Around (s t : List Char) : Prop := ∃ b c, Blanks b ∧ Blanks c ∧ s = b ++ (t ++ c)

theorem trimmed_trim (s : List Char) : Trimmed (trim s) where
  first _ h := head?_trim h
  last c h := by
    rw [List.head?_reverse] at h
    exact getLast?_trim h

theorem around_trim (s : List Char) : Around s (trim s) := by
  have start : s = s.takeWhile isBlank ++ trimStart s := List.takeWhile_append_dropWhile.symm
  have ends := congrArg List.reverse
    (List.takeWhile_append_dropWhile (p := isBlank) (l := (trimStart s).reverse))
  rw [List.reverse_append, List.reverse_reverse] at ends
  refine ⟨s.takeWhile isBlank, ((trimStart s).reverse.takeWhile isBlank).reverse,
    blanks_takeWhile s, fun c hc => blanks_takeWhile _ c (List.mem_reverse.mp hc), ?_⟩
  rw [trim, trimEnd, ends]
  exact start

theorem trim_of_around {s t : List Char} (h : Around s t) (trimmed : Trimmed t) : trim s = t := by
  obtain ⟨b, c, hb, hc, rfl⟩ := h
  exact trim_of_trimmed hb trimmed hc

variable {s w g t : List Char}

theorem IsWord.trimmed (h : IsWord w) : Trimmed w := trimmed_of_no_blank h.no_blank

theorem trim_eq_nil_iff : trim s = [] ↔ Blanks s := by
  constructor
  · intro nothing
    obtain ⟨b, c, hb, hc, eq⟩ := around_trim s
    rw [eq, nothing]
    exact blanks_append hb hc
  · intro blanks
    exact trim_of_around ⟨s, [], blanks, by simp [Blanks], by simp⟩ trimmed_nil

theorem trim_gap (h : IsGap g) (trimmed : Trimmed t) : trim (g ++ t) = t := by
  have trims := trim_of_trimmed (c := []) h.blanks trimmed (by simp [Blanks])
  rwa [List.append_nil] at trims

theorem IsGap.stops (h : IsGap g) (t : List Char) : Stops (!isBlank ·) (g ++ t) := by
  cases g with
  | nil => exact absurd rfl h.ne_nil
  | cons c g =>
      apply stops_cons
      simp [h.blanks c List.mem_cons_self]

theorem word_append (h : ∀ c ∈ w, isBlank c = false) (stops : Stops (!isBlank ·) t) :
    word (w ++ t) = w :=
  takeWhile_run (fun c hc => by simp [h c hc]) stops

theorem afterWord_append (h : ∀ c ∈ w, isBlank c = false) (stops : Stops (!isBlank ·) t) :
    afterWord (w ++ t) = t :=
  dropWhile_run (fun c hc => by simp [h c hc]) stops

theorem stops_reverse_append {p : Char → Bool} (ne : t ≠ []) :
    Stops p (s ++ t).reverse ↔ Stops p t.reverse := by
  obtain ⟨u, c, rfl⟩ := List.eq_nil_or_concat t |>.resolve_left ne
  simp [Stops]

theorem IsWord.append (hw : IsWord w) (ne : t ≠ []) (ht : Trimmed t) :
    Trimmed (w ++ (g ++ t)) where
  first := by
    obtain ⟨c, w, rfl⟩ := List.exists_cons_of_ne_nil hw.ne_nil
    exact stops_cons (hw.no_blank c List.mem_cons_self) _
  last := by
    rw [← List.append_assoc, stops_reverse_append ne]
    exact ht.last

theorem eq_nil_of_blanks (h : Blanks s) (ends : Stops isBlank s.reverse) : s = [] := by
  rcases List.eq_nil_or_concat s with rfl | ⟨u, c, rfl⟩
  · rfl
  · have blank := h c (by simp)
    rw [ends c (by simp)] at blank
    cases blank

theorem head?_afterWord {c : Char} (h : (afterWord s).head? = some c) : isBlank c = true := by
  have first := List.head?_dropWhile_not (!isBlank ·) s
  rw [show (s.dropWhile (!isBlank ·)).head? = some c from h] at first
  simpa using first

theorem Trimmed.cases (h : Trimmed s) : s = [] ∨ IsWord s ∨
    ∃ w g t, IsWord w ∧ IsGap g ∧ Trimmed t ∧ t ≠ [] ∧ s = w ++ (g ++ t) := by
  by_cases empty : s = []
  · exact .inl empty
  have first : IsWord (word s) := by
    refine ⟨?_, fun c hc => not_isBlank_of_mem_word hc⟩
    obtain ⟨c, s, rfl⟩ := List.exists_cons_of_ne_nil empty
    simp [word, h.first c rfl]
  right
  by_cases none : afterWord s = []
  · have all := word_append_afterWord s
    rw [none, List.append_nil] at all
    exact .inl (all ▸ first)
  have parts : afterWord s = (afterWord s).takeWhile isBlank ++ trimStart (afterWord s) :=
    List.takeWhile_append_dropWhile.symm
  have ends : Stops isBlank (afterWord s).reverse := by
    apply (stops_reverse_append (s := word s) none).mp
    rw [word_append_afterWord]
    exact h.last
  have some : trimStart (afterWord s) ≠ [] := by
    intro all
    rw [all, List.append_nil] at parts
    exact none (eq_nil_of_blanks (parts ▸ blanks_takeWhile _) ends)
  have gap : (afterWord s).takeWhile isBlank ≠ [] := by
    obtain ⟨c, r, begins⟩ := List.exists_cons_of_ne_nil none
    have blank := head?_afterWord (s := s) (c := c) (by rw [begins]; rfl)
    rw [begins, List.takeWhile_cons_of_pos blank]
    exact List.cons_ne_nil _ _
  rw [parts, stops_reverse_append some] at ends
  refine .inr ⟨word s, _, _, first, ⟨gap, blanks_takeWhile _⟩,
    ⟨fun _ hc => head?_trimStart hc, ends⟩, some, ?_⟩
  rw [← parts, word_append_afterWord]

def cut (s : List Char) : List Char × List Char × List Char :=
  (word s, (afterWord s).takeWhile isBlank, trim (afterWord s))

theorem afterWord_word (h : IsWord w) : word w = w ∧ afterWord w = [] := by
  have first := word_append (t := []) h.no_blank (stops_nil _)
  have rest := afterWord_append (t := []) h.no_blank (stops_nil _)
  rw [List.append_nil] at first rest
  exact ⟨first, rest⟩

theorem cut_word (h : IsWord w) : cut w = (w, [], []) := by
  rw [cut, (afterWord_word h).1, (afterWord_word h).2]
  rfl

theorem cut_append (hw : IsWord w) (hg : IsGap g) (ht : Trimmed t) :
    cut (w ++ (g ++ t)) = (w, g, t) := by
  rw [cut, word_append hw.no_blank (hg.stops t), afterWord_append hw.no_blank (hg.stops t),
    takeWhile_run hg.blanks ht.first, trim_gap hg ht]

end Sidekick.Text
