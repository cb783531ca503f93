import Sidekick.Proofs.Field.Member

namespace Sidekick.Field
open Text Number Json

inductive Json.Among (e : Entry) : List Entry → List Char → List Char → Prop
  | last : Among e [e] [] []
  | first {f : Entry} {es : List Entry} {r : List Char} : Written (.entries (f :: es)) r →
      Among e (e :: f :: es) [] (',' :: r)
  | later {d f : Entry} {es : List Entry} {s b a : List Char} : Written (.entry d) s →
      Among e (f :: es) b a → Among e (d :: f :: es) (s ++ ',' :: b) a

/-- In a text of an object with the members `ms`, the first quoted name of the field is the key of
one of these, whose value is `v`. -/
def OwnMember (text field : List Char) (ms : List (List Char × Json)) (v : Json) : Prop :=
  ∃ key b a u w x t y,
    Among (.member (meaning key) v) (ms.map fun m => .member m.1 m.2) b a ∧ Space u ∧
    NoBrackets (encodedText key) ∧ Space w ∧ Space x ∧ Written (.value v) t ∧ Space y ∧
    let rest := w ++ ':' :: (x ++ (t ++ (y ++ (a ++ ['\x7d']))))
    text = '\x7b' :: (b ++ (u ++ (quoted key ++ rest))) ∧ field = encodedText key ∧
      FirstOccurrence (quoted key) ('\x7b' :: (b ++ u)) rest

inductive HasField (text field : List Char) (ms : List (List Char × Json)) : Option Json → Prop
  | missing : ¬ quotedName field <:+: text → HasField text field ms none
  | own {v : Json} : OwnMember text field ms v → HasField text field ms (some v)

variable {text field : List Char} {ms : List (List Char × Json)}

theorem value?_of_missing (h : ¬ quotedName field <:+: text) : value? text field = none := by
  cases found : after? (quotedName field) text with
  | none => rw [value?, ← quotedName, found, Option.bind_none]
  | some rest =>
      obtain ⟨before, rfl, -⟩ := exists_of_after? found
      exact absurd ⟨before, rest, by rw [List.append_assoc]⟩ h

theorem Json.Among.within {e : Entry} {es : List Entry} {b a : List Char} (h : Among e es b a) :
    Within (.entry e) (.entries es) b a := by
  induction h with
  | last => exact .last .self
  | first rest => exact .first .self rest
  | later text _ ih => exact .later text ih

theorem OwnMember.firstMember {v : Json} (h : OwnMember text field ms v) :
    ∃ t, FirstMember text field (.object ms) v t := by
  obtain ⟨key, b, a, u, w, x, t, y, place, hu, plain, hw, hx, value, hy, rfl, rfl, first⟩ := h
  have none : Space [] := by simp [Space]
  have object := Within.element none (Within.object place.within) none
  refine ⟨t, key, '\x7b' :: b, a ++ ['\x7d'], u, w, x, y, ?_, hu, plain, hw, hx, value, hy, rfl,
    rfl, first⟩
  simpa using object

theorem FirstMember.string? {document t s : List Char} {root : Json}
    (h : FirstMember document field root (.string s) t) :
    string? document field = .ok (some s) := by
  obtain ⟨x, after, hx, -, text, held⟩ := h.holds
  cases text with
  | @string e _ =>
      have quote : '\x22' ∉ x := not_mem_of_space hx (by decide)
      have quotes : Holds document field (x ++ '\x22' :: (encodedText e ++ '\x22' :: after)) := by
        simpa [quoted] using held
      exact (string?_encodedText quotes quote).1

structure Reads (text field : List Char) (v : Option Json) : Prop where
  number : ∀ literal, v = some (.number literal) →
    number? text field = read? literal ∧ (read? literal).isSome = true
  string : ∀ s, v = some (.string s) → string? text field = .ok (some s)
  nothing : v = none → number? text field = none ∧ string? text field = .ok none

theorem HasField.reads {v : Option Json} (h : HasField text field ms v) : Reads text field v := by
  cases h with
  | missing absent =>
      have none := value?_of_missing absent
      refine ⟨?_, ?_, fun _ => ⟨?_, ?_⟩⟩
      · rintro literal ⟨⟩
      · rintro s ⟨⟩
      · rw [number?, none, Option.bind_none]
      · rw [string?, none]
        rfl
  | own member =>
      obtain ⟨t, first⟩ := member.firstMember
      refine ⟨?_, ?_, ?_⟩
      · rintro literal eq
        obtain rfl := Option.some.inj eq
        exact (first.found.number literal rfl).2
      · rintro s eq
        obtain rfl := Option.some.inj eq
        exact first.string?
      · rintro ⟨⟩

end Sidekick.Field
