import Sidekick.Text.Blank

namespace Sidekick.Text

-- Facts about the characters of a text are decided by going through the text, not through all
-- characters there are.
instance decidableForallMem {s : List Char} {p : Char → Prop} [DecidablePred p] :
    Decidable (∀ c ∈ s, p c) :=
  List.decidableBAll p s

instance decidableExistsMem {s : List Char} {p : Char → Prop} [DecidablePred p] :
    Decidable (∃ c ∈ s, p c) :=
  List.decidableBEx p s

/-- The text does not begin with a character of the class. -/
def Stops (p : Char → Bool) (s : List Char) : Prop := ∀ c ∈ s.head?, p c = false

def Blanks (s : List Char) : Prop := ∀ c ∈ s, isBlank c = true

instance (s : List Char) : Decidable (Blanks s) :=
  inferInstanceAs (Decidable (∀ c ∈ s, isBlank c = true))

theorem stops_nil (p : Char → Bool) : Stops p [] := by
  intro c h
  cases h

theorem stops_cons {p : Char → Bool} {c : Char} (h : p c = false) (s : List Char) :
    Stops p (c :: s) := by
  intro d hd
  obtain rfl := Option.some.inj hd
  exact h

theorem stops_append {p : Char → Bool} {s t : List Char} (hs : ∀ c ∈ s, p c = false)
    (ht : Stops p t) : Stops p (s ++ t) := by
  cases s with
  | nil => exact ht
  | cons c s => exact stops_cons (hs c List.mem_cons_self) _

theorem takeWhile_of_stops {p : Char → Bool} {s : List Char} (h : Stops p s) :
    s.takeWhile p = [] := by
  cases s with
  | nil => rfl
  | cons c s => rw [List.takeWhile_cons_of_neg (by simp [h c rfl])]

theorem dropWhile_of_stops {p : Char → Bool} {s : List Char} (h : Stops p s) :
    s.dropWhile p = s := by
  cases s with
  | nil => rfl
  | cons c s => rw [List.dropWhile_cons_of_neg (by simp [h c rfl])]

theorem takeWhile_run {p : Char → Bool} {run rest : List Char} (hr : ∀ c ∈ run, p c)
    (h : Stops p rest) : (run ++ rest).takeWhile p = run := by
  rw [List.takeWhile_append_of_pos hr, takeWhile_of_stops h, List.append_nil]

theorem dropWhile_run {p : Char → Bool} {run rest : List Char} (hr : ∀ c ∈ run, p c)
    (h : Stops p rest) : (run ++ rest).dropWhile p = rest := by
  rw [List.dropWhile_append_of_pos hr, dropWhile_of_stops h]

theorem blanks_takeWhile (s : List Char) : Blanks (s.takeWhile isBlank) :=
  List.all_eq_true.mp List.all_takeWhile

theorem trimStart_blanks {b s : List Char} (h : Blanks b) (stops : Stops isBlank s) :
    trimStart (b ++ s) = s :=
  dropWhile_run h stops

theorem trimEnd_blanks {s c : List Char} (stops : Stops isBlank s.reverse) (h : Blanks c) :
    trimEnd (s ++ c) = s := by
  have run : ∀ x ∈ c.reverse, isBlank x = true := fun x hx => h x (List.mem_reverse.mp hx)
  rw [trimEnd, List.reverse_append, dropWhile_run run stops, List.reverse_reverse]

theorem stops_of_forall {p : Char → Bool} {s : List Char} (h : ∀ c ∈ s, p c = false) :
    Stops p s := by
  rw [← List.append_nil s]
  exact stops_append h (stops_nil p)

/-- A text that neither begins nor ends with a blank. -/
structure Trimmed (s : List Char) : Prop where
  first : Stops isBlank s
  last : Stops isBlank s.reverse

theorem trimmed_nil : Trimmed [] := ⟨stops_nil _, stops_nil _⟩

theorem trimmed_of_no_blank {s : List Char} (h : ∀ c ∈ s, isBlank c = false) : Trimmed s where
  first := stops_of_forall h
  last := stops_of_forall fun c hc => h c (List.mem_reverse.mp hc)

theorem blanks_append {b c : List Char} (hb : Blanks b) (hc : Blanks c) : Blanks (b ++ c) :=
  List.forall_mem_append.mpr ⟨hb, hc⟩

theorem trim_of_trimmed {b s c : List Char} (hb : Blanks b) (h : Trimmed s) (hc : Blanks c) :
    trim (b ++ (s ++ c)) = s := by
  cases s with
  | nil =>
      have start := trimStart_blanks (blanks_append hb hc) (stops_nil isBlank)
      rw [List.append_nil] at start
      rw [List.nil_append, trim, start]
      rfl
  | cons x s =>
      have first : Stops isBlank (x :: s ++ c) := stops_cons (h.first x rfl) _
      rw [trim, trimStart_blanks hb first, trimEnd_blanks h.last hc]

theorem trim_of_no_blank {b s c : List Char} (hb : Blanks b) (hs : ∀ x ∈ s, isBlank x = false)
    (hc : Blanks c) : trim (b ++ (s ++ c)) = s :=
  trim_of_trimmed hb (trimmed_of_no_blank hs) hc

end Sidekick.Text
