import Sidekick.Field.Lookup
import Sidekick.Proofs.Field.Decoding
import Sidekick.Proofs.Text.Search

namespace Sidekick.Field
open Text

def quotedName (field : List Char) : List Char := '\x22' :: (field ++ ['\x22'])

/-- The first quoted name of the field is followed by a colon and then `rest`. -/
def Holds (document field rest : List Char) : Prop :=
  ∃ before between, document = before ++ (quotedName field ++ (between ++ ':' :: rest)) ∧
    FirstOccurrence (quotedName field) before (between ++ ':' :: rest) ∧ ':' ∉ between

theorem value?_eq_some {document field rest : List Char} (h : Holds document field rest) :
    value? document field = some rest := by
  obtain ⟨before, between, rfl, first, colon⟩ := h
  rw [value?, ← quotedName, after?_eq_some first, Option.bind_some, after?_mark colon]

theorem value?_eq_some_iff {document field rest : List Char} :
    value? document field = some rest ↔ Holds document field rest := by
  refine ⟨fun h => ?_, value?_eq_some⟩
  obtain ⟨behind, named, colon⟩ := Option.bind_eq_some_iff.mp h
  obtain ⟨before, rfl, first⟩ := exists_of_after? named
  obtain ⟨between, rfl, absent⟩ := after?_mark_iff.mp colon
  exact ⟨before, between, rfl, first, absent⟩

theorem Holds.append {document field rest : List Char} (h : Holds document field rest)
    (more : List Char) : Holds (document ++ more) field (rest ++ more) := by
  obtain ⟨before, between, rfl, first, colon⟩ := h
  have later := first.append more
  rw [List.append_assoc, List.cons_append] at later
  exact ⟨before, between, by simp, later, colon⟩

theorem string?_encodedText {document field gap after : List Char} {e : List Encoded}
    (h : Holds document field (gap ++ '\x22' :: (encodedText e ++ '\x22' :: after)))
    (quote : '\x22' ∉ gap) :
    string? document field = .ok (some (meaning e)) ∧
      ∀ v, Encodes e v → string? document field = .ok (some v) := by
  have found : string? document field = .ok (some (meaning e)) := by
    rw [string?, value?_eq_some h, Option.bind_some, after?_mark quote]
    simp only [decode_encodedText]
    rfl
  refine ⟨found, fun v encodes => ?_⟩
  rw [found, meaning_of_encodes encodes]

theorem string?_encodedText_surrogates :
    string? "\"joke\":\"\\ud83d\\n\"".toList "joke".toList = .ok (some ['\uFFFD', '\n']) ∧
    string? "\"id\":1,\"joke\" : \"\\uD83d\\ude02\\\\u\",".toList "joke".toList =
      .ok (some ['😂', '\\', 'u']) := by
  let high : CodeUnit := ⟨⟨13, true⟩, ⟨8, false⟩, ⟨3, false⟩, ⟨13, false⟩⟩
  let low : CodeUnit := ⟨⟨13, false⟩, ⟨14, false⟩, ⟨0, false⟩, ⟨2, false⟩⟩
  let alone : CodeUnit := ⟨⟨13, false⟩, ⟨8, false⟩, ⟨3, false⟩, ⟨13, false⟩⟩
  let u : Encoded := .literal 'u' (by decide)
  have holdsAlone : Holds "\"joke\":\"\\ud83d\\n\"".toList "joke".toList
      ([] ++ '\x22' :: (encodedText [.unit alone, .short .newline] ++ ['\x22'])) :=
    ⟨[], [], by decide +kernel, by decide +kernel, by decide⟩
  have holdsPair : Holds "\"id\":1,\"joke\" : \"\\uD83d\\ude02\\\\u\",".toList "joke".toList
      ([' '] ++ '\x22' :: (encodedText [.unit high, .unit low, .short .backslash, u] ++
        '\x22' :: [','])) :=
    ⟨"\"id\":1,".toList, [' '], by decide +kernel, by decide +kernel, by decide⟩
  have encodes : Encodes [.unit high, .unit low, .short .backslash, u] ['😂', '\\', 'u'] :=
    .pair (by decide) (by decide) (by decide) (.short .backslash (.literal .nil))
  have replaced : meaning [.unit alone, .short .newline] = ['\uFFFD', '\n'] := by decide +kernel
  constructor
  · rw [← replaced]
    exact (string?_encodedText holdsAlone (by decide)).1
  · exact (string?_encodedText holdsPair (by decide)).2 _ encodes

end Sidekick.Field
