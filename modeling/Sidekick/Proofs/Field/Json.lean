import Sidekick.Proofs.Field.Array

namespace Sidekick.Field
open Text Number

inductive Json where
  | null
  | bool (b : Bool)
  | number (literal : List Char)
  | string (text : List Char)
  | array (elements : List Json)
  | object (members : List (List Char × Json))

namespace Json

inductive Entry where
  | element (v : Json)
  | member (key : List Char) (v : Json)

inductive Part where
  | value (v : Json)
  | entry (e : Entry)
  | entries (es : List Entry)

def spaceChars : List Char := [' ', '\t', '\n', '\r']

def Space (s : List Char) : Prop := ∀ c ∈ s, c ∈ spaceChars

instance (s : List Char) : Decidable (Space s) :=
  inferInstanceAs (Decidable (∀ c ∈ s, c ∈ spaceChars))

def brackets : List Char := ['\x7b', '\x7d', '[', ']']

def NoBrackets (s : List Char) : Prop := ∀ c ∈ s, c ∉ brackets

instance (s : List Char) : Decidable (NoBrackets s) :=
  inferInstanceAs (Decidable (∀ c ∈ s, c ∉ brackets))

/-- A literal; some that JSON does not allow, as `+1.`, are among them. -/
inductive IsLiteral : List Char → Prop
  | intro {sign whole fraction exponent : List Char} : IsSign sign → AllDigits whole →
      whole ≠ [] → IsFraction fraction → IsExponent exponent →
      IsLiteral (sign ++ (whole ++ (fraction ++ exponent)))

/-- The texts of values, of elements and members with the space around them, and of several of
these with commas between. -/
inductive Written : Part → List Char → Prop
  | null : Written (.value .null) nullText
  | bool (b : Bool) :
      Written (.value (.bool b)) (if b then "true".toList else "false".toList)
  | number {s : List Char} : IsLiteral s → Written (.value (.number s)) s
  | string {e : List Encoded} : NoBrackets (encodedText e) →
      Written (.value (.string (meaning e))) (quoted e)
  | array {vs : List Json} {s : List Char} : Written (.entries (vs.map .element)) s →
      Written (.value (.array vs)) ('[' :: (s ++ [']']))
  | object {ms : List (List Char × Json)} {s : List Char} :
      Written (.entries (ms.map fun m => .member m.1 m.2)) s →
      Written (.value (.object ms)) ('\x7b' :: (s ++ ['\x7d']))
  | element {v : Json} {u s w : List Char} : Space u → Written (.value v) s → Space w →
      Written (.entry (.element v)) (u ++ (s ++ w))
  | member {key : List Encoded} {v : Json} {u w s : List Char} : Space u →
      NoBrackets (encodedText key) → Space w → Written (.entry (.element v)) s →
      Written (.entry (.member (meaning key) v)) (u ++ (quoted key ++ (w ++ ':' :: s)))
  | none {w : List Char} : Space w → Written (.entries []) w
  | last {e : Entry} {s : List Char} : Written (.entry e) s → Written (.entries [e]) s
  | more {e f : Entry} {es : List Entry} {s r : List Char} : Written (.entry e) s →
      Written (.entries (f :: es)) r → Written (.entries (e :: f :: es)) (s ++ ',' :: r)

/-- Where a text of the part `p` can stand in a text of another part: behind the one text and before
the other. -/
inductive Within (p : Part) : Part → List Char → List Char → Prop
  | self : Within p p [] []
  | array {vs : List Json} {b a : List Char} : Within p (.entries (vs.map .element)) b a →
      Within p (.value (.array vs)) ('[' :: b) (a ++ [']'])
  | object {ms : List (List Char × Json)} {b a : List Char} :
      Within p (.entries (ms.map fun m => .member m.1 m.2)) b a →
      Within p (.value (.object ms)) ('\x7b' :: b) (a ++ ['\x7d'])
  | element {v : Json} {u b a w : List Char} : Space u → Within p (.value v) b a → Space w →
      Within p (.entry (.element v)) (u ++ b) (a ++ w)
  | member {key : List Encoded} {v : Json} {u w b a : List Char} : Space u →
      NoBrackets (encodedText key) → Space w → Within p (.entry (.element v)) b a →
      Within p (.entry (.member (meaning key) v)) (u ++ (quoted key ++ (w ++ ':' :: b))) a
  | last {e : Entry} {b a : List Char} : Within p (.entry e) b a → Within p (.entries [e]) b a
  | first {e f : Entry} {es : List Entry} {b a r : List Char} : Within p (.entry e) b a →
      Written (.entries (f :: es)) r → Within p (.entries (e :: f :: es)) b (a ++ ',' :: r)
  | later {e f : Entry} {es : List Entry} {s b a : List Char} : Written (.entry e) s →
      Within p (.entries (f :: es)) b a → Within p (.entries (e :: f :: es)) (s ++ ',' :: b) a

theorem Within.written {p q : Part} {b t a : List Char} (h : Within p q b a) (text : Written p t) :
    Written q (b ++ (t ++ a)) := by
  induction h with
  | self => simpa using text
  | array _ ih => simpa using Written.array ih
  | object _ ih => simpa using Written.object ih
  | element hu _ hw ih => simpa using Written.element hu ih hw
  | member hu plain hw _ ih => simpa using Written.member hu plain hw ih
  | last _ ih => exact .last ih
  | first _ rest ih => simpa using Written.more ih rest
  | later text _ ih => simpa using Written.more text ih

theorem blanks_of_space {s : List Char} (h : Space s) : Blanks s := by
  have all : ∀ c ∈ spaceChars, isBlank c = true := by decide
  exact fun c hc => all c (h c hc)

theorem not_mem_of_space {s : List Char} (h : Space s) {c : Char} (mark : c ∉ spaceChars) :
    c ∉ s :=
  fun mem => mark (h c mem)

theorem noBrackets_of_space {s : List Char} (h : Space s) : NoBrackets s := by
  have all : ∀ c ∈ spaceChars, c ∉ brackets := by decide
  exact fun c hc => all c (h c hc)

theorem IsLiteral.isSome_read? {s : List Char} (h : IsLiteral s) : (read? s).isSome = true := by
  obtain ⟨hs, hw, ne, hf, he⟩ := h
  apply isSome_read?_numeral hs hw hf he
  obtain ⟨c, hc⟩ := List.exists_mem_of_ne_nil _ ne
  exact ⟨c, List.mem_append_left _ hc, hw c hc⟩

theorem IsLiteral.mem_numeralChars {s : List Char} (h : IsLiteral s) :
    ∀ c ∈ s, c ∈ numeralChars := by
  obtain ⟨hs, hw, -, hf, he⟩ := h
  intro c hc
  simp only [List.mem_append] at hc
  rcases hc with hc | hc | hc | hc
  · exact mem_numeralChars_of_isSign hs c hc
  · exact mem_numeralChars_of_isDigit (hw c hc)
  · exact mem_numeralChars_of_isFraction hf c hc
  · exact mem_numeralChars_of_isExponent he c hc

def Balanced (s : List Char) : Prop := Nested '\x7b' '\x7d' s ∧ Nested '[' ']' s

theorem balanced_of_noBrackets {s : List Char} (h : NoBrackets s) : Balanced s := by
  have absent : ∀ c ∈ brackets, c ∉ s := fun c bracket mem => h c mem bracket
  exact ⟨nested_of_not_mem (absent _ (by decide)) (absent _ (by decide)),
    nested_of_not_mem (absent _ (by decide)) (absent _ (by decide))⟩

theorem Balanced.append {s t : List Char} (hs : Balanced s) (ht : Balanced t) :
    Balanced (s ++ t) :=
  ⟨nested_append hs.1 ht.1, nested_append hs.2 ht.2⟩

theorem Balanced.cons {c : Char} {s : List Char} (mark : c ∉ brackets) (h : Balanced s) :
    Balanced (c :: s) :=
  (balanced_of_noBrackets (s := [c]) (by simpa [NoBrackets] using mark)).append h

theorem Balanced.array {s : List Char} (h : Balanced s) : Balanced ('[' :: (s ++ [']'])) :=
  ⟨.other (by decide) (by decide) (nested_append h.1 (.other (by decide) (by decide) .nil)),
    nested_group h.2⟩

theorem Balanced.object {s : List Char} (h : Balanced s) :
    Balanced ('\x7b' :: (s ++ ['\x7d'])) :=
  ⟨nested_group h.1,
    .other (by decide) (by decide) (nested_append h.2 (.other (by decide) (by decide) .nil))⟩

theorem balanced_space {s : List Char} (h : Space s) : Balanced s :=
  balanced_of_noBrackets (noBrackets_of_space h)

theorem balanced_quoted {e : List Encoded} (plain : NoBrackets (encodedText e)) :
    Balanced (quoted e) := by
  refine .cons (by decide) (.append (balanced_of_noBrackets plain) ?_)
  exact balanced_of_noBrackets (by decide)

theorem Written.balanced {p : Part} {s : List Char} (h : Written p s) : Balanced s := by
  induction h with
  | null => exact balanced_of_noBrackets (by decide)
  | bool b => cases b <;> exact balanced_of_noBrackets (by decide)
  | number literal =>
      have all : ∀ c ∈ numeralChars, c ∉ brackets := by decide
      exact balanced_of_noBrackets fun c hc => all c (literal.mem_numeralChars c hc)
  | string plain => exact balanced_quoted plain
  | array _ ih => exact ih.array
  | object _ ih => exact ih.object
  | element hu _ hw ih => exact (balanced_space hu).append (ih.append (balanced_space hw))
  | member hu plain hw _ ih =>
      have colon := (balanced_space hw).append (ih.cons (c := ':') (by decide))
      exact (balanced_space hu).append ((balanced_quoted plain).append colon)
  | none hw => exact balanced_space hw
  | last _ ih => exact ih
  | more _ _ ih rest => exact ih.append (rest.cons (by decide))

end Json

end Sidekick.Field
