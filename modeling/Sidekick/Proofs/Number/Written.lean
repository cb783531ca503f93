import Sidekick.Number.Notation
import Sidekick.Proofs.Number.Numeral

namespace Sidekick.Number

def writtenChars : List Char := "0123456789.-+einfa%".toList

structure Written (s : String) : Prop where
  chars : ∀ c ∈ s.toList, c ∈ writtenChars
  nonempty : s.toList ≠ []

theorem Written.append {s t : String} (hs : ∀ c ∈ s.toList, c ∈ writtenChars) (ht : Written t) :
    Written (s ++ t) := by
  constructor
  · intro c hc
    rw [String.toList_append, List.mem_append] at hc
    exact hc.elim (hs c) (ht.chars c)
  · rw [String.toList_append]
    simp [ht.nonempty]

theorem mem_writtenChars_of_isDigit {c : Char} (h : c.isDigit = true) : c ∈ writtenChars := by
  have all : ∀ c ∈ "0123456789".toList, c ∈ writtenChars := by decide
  exact all c (mem_digits h)

theorem mem_toDigits {n : Nat} : ∀ c ∈ Nat.toDigits 10 n, c ∈ writtenChars :=
  fun _ hc => mem_writtenChars_of_isDigit (Nat.isDigit_of_mem_toDigits (by decide) (by decide) hc)

theorem mem_zeros {n : Nat} : ∀ c ∈ List.replicate n '0', c ∈ writtenChars := by
  intro c hc
  rw [(List.mem_replicate.mp hc).2]
  decide

theorem written_ofList {s : List Char} (h : ∀ c ∈ s, c ∈ writtenChars) (ne : s ≠ []) :
    Written (String.ofList s) := by
  constructor <;> rwa [String.toList_ofList]

theorem written_toString_nat (n : Nat) : Written (toString n) := by
  rw [Nat.toString_eq_ofList_toDigits]
  exact written_ofList mem_toDigits Nat.toDigits_ne_nil

theorem written_toString_int (n : Int) : Written (toString n) := by
  cases n with
  | ofNat n => exact written_toString_nat n
  | negSucc n => exact .append (s := "-") (by decide) (written_toString_nat (n + 1))

theorem written_padded (width n : Nat) : Written (padded width n) := by
  apply written_ofList
  · intro c hc
    exact (List.mem_append.mp hc).elim (mem_zeros c) (mem_toDigits c)
  · simp [Nat.toDigits_ne_nil]

theorem mem_withPoint {digits : List Char} (h : ∀ c ∈ digits, c ∈ writtenChars) :
    ∀ c ∈ (withPoint digits).toList, c ∈ writtenChars := by
  have point : '.' ∈ writtenChars := by decide
  match digits with
  | [] => simp [withPoint]
  | [d] => simpa [withPoint] using h
  | d :: e :: rest =>
      simp only [withPoint, String.toList_ofList, List.mem_cons] at h ⊢
      rintro c (rfl | rfl | hc)
      · exact h c (.inl rfl)
      · exact point
      · exact h c (.inr hc)

theorem written_write {digits : List Char} (h : ∀ c ∈ digits, c ∈ writtenChars) (ne : digits ≠ [])
    (power : Int) : Written (layout.write digits power) := by
  unfold Layout.write
  split
  · split
    · apply Written.append (by decide)
      apply written_ofList
      · intro c hc
        exact (List.mem_append.mp hc).elim (mem_zeros c) (h c)
      · simp [ne]
    · apply Written.append
      · intro c hc
        rw [String.toList_ofList] at hc
        exact (List.mem_append.mp hc).elim (fun mem => h c (List.mem_of_mem_take mem)) (mem_zeros c)
      · split
        · exact ⟨by decide, by decide⟩
        · rename_i fraction
          apply Written.append (by decide)
          apply written_ofList
          · exact fun c hc => h c (List.mem_of_mem_drop hc)
          · simpa using fraction
  · apply Written.append
    · intro c hc
      simp only [String.toList_append, List.mem_append] at hc
      rcases hc with (hc | hc) | hc
      · exact mem_withPoint h c hc
      · exact (by decide : ∀ c ∈ "e".toList, c ∈ writtenChars) c hc
      · revert c
        split <;> decide
    · exact written_padded _ _

theorem signText_plain (negative : Bool) :
    ∀ c ∈ (signText negative).toList, c ∈ writtenChars := by
  cases negative <;> decide

theorem written_text (x : Float) : Written (text x) := by
  unfold text
  split
  · exact ⟨by decide, by decide⟩
  · exact .append (signText_plain _) ⟨by decide, by decide⟩
  · exact .append (signText_plain _) (written_write mem_toDigits Nat.toDigits_ne_nil _)

end Sidekick.Number
