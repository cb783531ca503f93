import Sidekick.Proofs.Field.Brackets

namespace Sidekick.Field
open Text

def arrayMember (field inner : List Char) : List Char :=
  quotedName field ++ ':' :: '[' :: (inner ++ [']'])

def arrayMembers (ms : List (List Char × List Char)) : List Char :=
  ms.flatMap fun m => arrayMember m.1 m.2 ++ [',']

def arrayObject (ms : List (List Char × List Char)) (last : List Char × List Char) : List Char :=
  '\x7b' :: (arrayMembers ms ++ (arrayMember last.1 last.2 ++ ['\x7d']))

structure IsName (field : List Char) : Prop where
  quote : '\x22' ∉ field
  colon : ':' ∉ field

instance (field : List Char) : Decidable (IsName field) :=
  decidable_of_iff ('\x22' ∉ field ∧ ':' ∉ field) ⟨fun ⟨h₁, h₂⟩ => ⟨h₁, h₂⟩,
    fun ⟨h₁, h₂⟩ => ⟨h₁, h₂⟩⟩

theorem firstOccurrence_nil (key rest : List Char) : FirstOccurrence key [] rest :=
  fun _ _ _ => Nat.zero_le _

theorem firstOccurrence_cons {key before rest : List Char} {c : Char}
    (absent : ¬ key <+: c :: (before ++ (key ++ rest))) (h : FirstOccurrence key before rest) :
    FirstOccurrence key (c :: before) rest := by
  intro x y eq
  cases x with
  | nil => exact absurd ⟨y, eq.symm⟩ absent
  | cons d x => exact Nat.succ_le_succ (h x y (List.cons.inj eq).2)

variable {field before rest : List Char}

theorem firstOccurrence_append {u : List Char} (quote : '\x22' ∉ u)
    (h : FirstOccurrence (quotedName field) before rest) :
    FirstOccurrence (quotedName field) (u ++ before) rest := by
  induction u with
  | nil => exact h
  | cons c u ih =>
      rw [List.mem_cons, not_or] at quote
      apply firstOccurrence_cons
      · rintro ⟨y, eq⟩
        exact quote.1 (List.cons.inj eq).1
      · exact ih quote.2

theorem eq_of_append_quote {s t u v : List Char} (hs : '\x22' ∉ s) (ht : '\x22' ∉ t)
    (h : s ++ '\x22' :: u = t ++ '\x22' :: v) : s = t := by
  have parts := congrArg (splitAt '\x22') h
  rw [splitAt_append, splitAt_append, splitAt_of_not_mem hs, splitAt_of_not_mem ht] at parts
  exact (List.cons.inj parts).1

theorem firstOccurrence_name {name : List Char} (hf : IsName field) (hn : IsName name)
    (ne : field ≠ name) (h : FirstOccurrence (quotedName field) (':' :: before) rest) :
    FirstOccurrence (quotedName field) (quotedName name ++ ':' :: before) rest := by
  have closing : FirstOccurrence (quotedName field) ('\x22' :: ':' :: before) rest := by
    apply firstOccurrence_cons _ h
    rintro ⟨y, eq⟩
    have behind := (List.cons.inj eq).2
    cases field with
    | nil => exact absurd (List.cons.inj behind).1 (by decide)
    | cons c field => exact hf.colon ((List.cons.inj behind).1 ▸ List.mem_cons_self)
  have inner := firstOccurrence_append hn.quote closing
  have opened : FirstOccurrence (quotedName field)
      ('\x22' :: (name ++ '\x22' :: ':' :: before)) rest := by
    apply firstOccurrence_cons _ inner
    rintro ⟨y, eq⟩
    have behind : field ++ '\x22' :: y =
        name ++ '\x22' :: (':' :: (before ++ (quotedName field ++ rest))) := by
      simpa using (List.cons.inj eq).2
    exact ne (eq_of_append_quote hf.quote hn.quote behind)
  simpa [quotedName] using opened

def OtherMembers (field : List Char) (ms : List (List Char × List Char)) : Prop :=
  ∀ m ∈ ms, IsName m.1 ∧ field ≠ m.1 ∧ '\x22' ∉ m.2

theorem firstOccurrence_members (hf : IsName field) {ms : List (List Char × List Char)}
    (other : OtherMembers field ms) :
    FirstOccurrence (quotedName field) (arrayMembers ms) rest := by
  induction ms with
  | nil => exact firstOccurrence_nil _ _
  | cons m ms ih =>
      obtain ⟨name, ne, quote⟩ := other m List.mem_cons_self
      have later := ih fun m' mem => other m' (List.mem_cons_of_mem _ mem)
      have inner : '\x22' ∉ ':' :: '[' :: (m.2 ++ [']', ',']) := by
        simp only [List.mem_cons, List.mem_append, not_or]
        exact ⟨by decide, by decide, quote, by decide, by decide, by simp⟩
      have array := firstOccurrence_append inner later
      have member := firstOccurrence_name hf name ne array
      simpa [arrayMembers, arrayMember] using member

theorem holds_member (hf : IsName field) {ms : List (List Char × List Char)}
    (other : OtherMembers field ms) (inner after : List Char) :
    Holds ('\x7b' :: (arrayMembers ms ++ (arrayMember field inner ++ after))) field
      ([] ++ '[' :: (inner ++ ']' :: after)) := by
  refine ⟨'\x7b' :: arrayMembers ms, [], ?_, ?_, by simp⟩
  · simp [arrayMember]
  · have members : FirstOccurrence (quotedName field) (arrayMembers ms)
        (':' :: ('[' :: (inner ++ ']' :: after))) := firstOccurrence_members hf other
    exact firstOccurrence_append (u := ['\x7b']) (by decide) members

theorem holdsArray_last {ms : List (List Char × List Char)} {last : List Char × List Char}
    (hf : IsName last.1) (other : OtherMembers last.1 ms) (nested : Nested '[' ']' last.2) :
    HoldsArray (arrayObject ms last) last.1 last.2 :=
  ⟨[], ['\x7d'], holds_member hf other last.2 ['\x7d'], by simp, nested⟩

theorem holdsArray_member {ms ms' : List (List Char × List Char)} {last : List Char × List Char}
    {inner : List Char} (hf : IsName field) (other : OtherMembers field ms)
    (nested : Nested '[' ']' inner) :
    HoldsArray (arrayObject (ms ++ (field, inner) :: ms') last) field inner := by
  let after := ',' :: (arrayMembers ms' ++ (arrayMember last.1 last.2 ++ ['\x7d']))
  have held := holds_member hf other inner after
  have same : arrayObject (ms ++ (field, inner) :: ms') last =
      '\x7b' :: (arrayMembers ms ++ (arrayMember field inner ++ after)) := by
    simp [arrayObject, arrayMembers, after]
  rw [same]
  exact ⟨[], after, held, by simp, nested⟩

def arraysDocument (name : List Char) (ms : List (List Char × List Char))
    (last : List Char × List Char) : List Char :=
  '\x7b' :: (quotedName name ++ ':' :: (arrayObject ms last ++ ['\x7d']))

theorem not_mem_arrayMember {c : Char} (mark : c ∉ ['\x22', ':', '[', ']'])
    {field inner : List Char} (hf : c ∉ field) (hi : c ∉ inner) : c ∉ arrayMember field inner := by
  simp only [List.mem_cons, List.not_mem_nil, or_false, not_or] at mark
  simp [arrayMember, quotedName, mark, hf, hi]

theorem not_mem_arrayMembers {c : Char} (mark : c ∉ ['\x22', ':', '[', ']']) (comma : c ≠ ',')
    {ms : List (List Char × List Char)} (h : ∀ m ∈ ms, c ∉ m.1 ∧ c ∉ m.2) :
    c ∉ arrayMembers ms := by
  intro mem
  obtain ⟨m, hm, hc⟩ := List.mem_flatMap.mp mem
  rcases List.mem_append.mp hc with hc | hc
  · exact not_mem_arrayMember mark (h m hm).1 (h m hm).2 hc
  · exact comma (List.mem_singleton.mp hc)

theorem holdsObject_arrays {name : List Char} {ms : List (List Char × List Char)}
    {last : List Char × List Char}
    (braces : ∀ m ∈ last :: ms, ∀ c ∈ ['\x7b', '\x7d'], c ∉ m.1 ∧ c ∉ m.2) :
    HoldsObject (arraysDocument name ms last) name (arrayObject ms last) := by
  have absent : ∀ c ∈ ['\x7b', '\x7d'],
      c ∉ arrayMembers ms ++ arrayMember last.1 last.2 := by
    have marks : ∀ c ∈ ['\x7b', '\x7d'], c ∉ ['\x22', ':', '[', ']'] ∧ c ≠ ',' := by decide
    intro c hc
    rw [List.mem_append, not_or]
    constructor
    · exact not_mem_arrayMembers (marks c hc).1 (marks c hc).2
        fun m hm => braces m (List.mem_cons_of_mem _ hm) c hc
    · have ends := braces last List.mem_cons_self c hc
      exact not_mem_arrayMember (marks c hc).1 ends.1 ends.2
  have nested := nested_of_not_mem (absent '\x7b' (by decide)) (absent '\x7d' (by decide))
  refine ⟨[], _, ['\x7d'], ⟨['\x7b'], [], ?_, ?_, by simp⟩, by simp, nested, ?_⟩
  · simp [arraysDocument, arrayObject]
  · exact firstOccurrence_append (u := ['\x7b']) (by decide) (firstOccurrence_nil _ _)
  · simp [arrayObject]

end Sidekick.Field
