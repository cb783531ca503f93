import Sidekick.Field.Lookup
import Sidekick.Proofs.Results

namespace Sidekick.Field
open Text

def HasNegative (document field : List Char) : Prop :=
  ∃ t figures, (value? document field).bind (after? ['\x22']) = some t ∧
    .unit figures ∈ (items t).1 ∧ unitValue figures < 0

theorem nonneg_of_isHighSurrogate {n : Int} (h : isHighSurrogate n = true) : 0 ≤ n := by
  simp only [isHighSurrogate, Bool.and_eq_true, decide_eq_true_eq] at h
  omega

theorem nonneg_of_isLowSurrogate {n : Int} (h : isLowSurrogate n = true) : 0 ≤ n := by
  simp only [isLowSurrogate, Bool.and_eq_true, decide_eq_true_eq] at h
  omega

def Item.Natural : Item → Prop
  | unit figures => 0 ≤ unitValue figures
  | _ => True

def Decoded (is : List Item) : Prop :=
  (∃ v, decodeItems is = .ok v) ∧ (∀ i ∈ is, i.Natural) ∨
    decodeItems is = .error .negativeCharacter ∧ ∃ i ∈ is, ¬ i.Natural

theorem Decoded.of_rest {is rest : List Item} (h : Decoded rest) (c : Char)
    (step : decodeItems is = do return c :: (← decodeItems rest))
    (same : (∀ i ∈ is, i.Natural) ↔ ∀ i ∈ rest, i.Natural) : Decoded is := by
  rcases h with ⟨⟨v, found⟩, natural⟩ | ⟨failed, negative⟩
  · exact .inl ⟨⟨c :: v, by rw [step, found]; rfl⟩, same.mpr natural⟩
  · refine .inr ⟨by rw [step, failed]; rfl, ?_⟩
    simpa using (not_congr same).mpr (by simpa using negative)

-- Half of a pair is no negative unit, so the pairs need no case of their own in `Natural`.
theorem decoded (is : List Item) : Decoded is := by
  fun_induction decodeItems is with
  | case1 => exact .inl ⟨⟨[], rfl⟩, by simp⟩
  | case2 c rest ih => exact ih.of_rest c rfl (by simp [Item.Natural])
  | case3 c rest ih => exact ih.of_rest (unescape c) rfl (by simp [Item.Natural])
  | case4 high low rest pair ih =>
      have halves := Bool.and_eq_true_iff.mp pair
      refine ih.of_rest (joined (unitValue high) (unitValue low)) ?_ ?_
      · rw [decodeItems, if_pos pair]
      · simp [Item.Natural, nonneg_of_isHighSurrogate halves.1, nonneg_of_isLowSurrogate halves.2]
  | case5 high low rest pair negative =>
      refine .inr ⟨?_, .unit high, List.mem_cons_self, Int.not_le.mpr negative⟩
      rw [decodeItems, if_neg pair, if_pos negative]
  | case6 high low rest pair natural ih =>
      refine ih.of_rest (single (unitValue high)) ?_ ?_
      · rw [decodeItems, if_neg pair, if_neg natural]
      · simp [Item.Natural, Int.not_lt.mp natural]
  | case7 figures rest single negative =>
      refine .inr ⟨?_, .unit figures, List.mem_cons_self, Int.not_le.mpr negative⟩
      rw [decodeItems, if_pos negative]
      exact single
  | case8 figures rest alone natural ih =>
      refine ih.of_rest (single (unitValue figures)) ?_ ?_
      · rw [decodeItems, if_neg natural]
        exact alone
      · simp [Item.Natural, Int.not_lt.mp natural]

theorem decode_eq_error_iff_not_natural {t : List Char} {fault : Fault} :
    decode t = .error fault ↔ (∃ i ∈ (items t).1, ¬ i.Natural) ∧ fault = .negativeCharacter := by
  rw [decode]
  rcases decoded (items t).1 with ⟨⟨v, read⟩, natural⟩ | ⟨failed, unread⟩
  · rw [read]
    exact iff_of_false nofun fun ⟨⟨i, mem, negative⟩, _⟩ => negative (natural i mem)
  · simp [failed, unread, eq_comm]

theorem exists_not_natural_iff {is : List Item} :
    (∃ i ∈ is, ¬ i.Natural) ↔ ∃ figures, .unit figures ∈ is ∧ unitValue figures < 0 := by
  constructor
  · rintro ⟨i, mem, negative⟩
    cases i with
    | unit figures => exact ⟨figures, mem, Int.not_le.mp negative⟩
    | plain c => exact absurd trivial negative
    | escaped c => exact absurd trivial negative
  · rintro ⟨figures, mem, negative⟩
    exact ⟨.unit figures, mem, Int.not_le.mpr negative⟩

theorem hasNegative_iff {document field : List Char} : HasNegative document field ↔
    ∃ t, (value? document field).bind (after? ['\x22']) = some t ∧
      ∃ i ∈ (items t).1, ¬ i.Natural := by
  simp only [HasNegative, exists_not_natural_iff, exists_and_left]

theorem string?_eq_error_iff {document field : List Char} {fault : Fault} :
    string? document field = .error fault ↔
      HasNegative document field ∧ fault = .negativeCharacter := by
  rw [string?, hasNegative_iff]
  cases (value? document field).bind (after? ['\x22']) with
  | none => simp
  | some t => simp [map_eq_error_iff, decode_eq_error_iff_not_natural]

theorem not_hasNegative_of_ok {document field : List Char} {v : Option (List Char)}
    (h : string? document field = .ok v) : ¬ HasNegative document field := by
  intro negative
  rw [string?_eq_error_iff.mpr ⟨negative, rfl⟩] at h
  cases h

end Sidekick.Field
