import Sidekick.Text.Ranges

/-!
# Blanks, trimming and words

A blank is a space, tab, line or paragraph break of any script, or one of the four information
separators. A zero-width space or a byte order mark is none.
-/

namespace Sidekick.Text

def blanks : Ranges :=
  [(0x09, 0x0D), (0x1C, 0x20), (0x85, 0x85), (0xA0, 0xA0), (0x1680, 0x1680), (0x2000, 0x200A),
   (0x2028, 0x2029), (0x202F, 0x202F), (0x205F, 0x205F), (0x3000, 0x3000)]

def isBlank (c : Char) : Bool := blanks.has c.toNat

def trimStart (s : List Char) : List Char := s.dropWhile isBlank

def trimEnd (s : List Char) : List Char := (s.reverse.dropWhile isBlank).reverse

def trim (s : List Char) : List Char := trimEnd (trimStart s)

def word (s : List Char) : List Char := s.takeWhile (!isBlank ·)

def afterWord (s : List Char) : List Char := s.dropWhile (!isBlank ·)

theorem head?_trimStart {s : List Char} {c : Char} (h : (trimStart s).head? = some c) :
    isBlank c = false := by
  induction s with
  | nil => simp [trimStart] at h
  | cons a s ih =>
    by_cases ha : isBlank a
    · exact ih (by simpa [trimStart, ha] using h)
    · obtain rfl : a = c := by simpa [trimStart, ha] using h
      simpa using ha

theorem getLast?_trim {s : List Char} {c : Char} (h : (trim s).getLast? = some c) :
    isBlank c = false := by
  rw [trim, trimEnd, List.getLast?_reverse] at h
  exact head?_trimStart h

theorem head?_trim {s : List Char} {c : Char} (h : (trim s).head? = some c) :
    isBlank c = false := by
  obtain ⟨t, ht⟩ : trim s <+: trimStart s := by
    rw [trim, trimEnd, ← List.reverse_suffix, List.reverse_reverse]
    exact List.dropWhile_suffix isBlank
  cases hs : trim s with
  | nil => simp [hs] at h
  | cons a r =>
    obtain rfl : a = c := by simpa [hs] using h
    exact head?_trimStart (s := s) (by rw [← ht, hs]; rfl)

theorem word_append_afterWord (s : List Char) : word s ++ afterWord s = s :=
  List.takeWhile_append_dropWhile

theorem not_isBlank_of_mem_word {s : List Char} {c : Char} (h : c ∈ word s) : isBlank c = false := by
  induction s with
  | nil => simp [word] at h
  | cons a s ih =>
    by_cases ha : isBlank a
    · simp [word, ha] at h
    · simp only [word, List.takeWhile_cons, ha, Bool.not_false, if_true, List.mem_cons] at h
      rcases h with rfl | h
      · simpa using ha
      · exact ih h

end Sidekick.Text
