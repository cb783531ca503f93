import Sidekick.Proofs.Calculator.Infix

/-!
# Loose order

Many tokens that are no expression have a postfix order too. In loose order a run of operands and
groups, of any number, stands where an expression has a single one.
-/

namespace Sidekick.Calculator

variable {α : Type}

/-- The tokens of a phrase in loose order and their items. An operator is put behind the run on its
right, whatever is in that run. -/
inductive Loose : Phrase → List (Token α) → List (Item α) → Prop
  | empty : Loose .factor [] []
  | operand {ts : List (Token α)} {is : List (Item α)} (x : α) : Loose .factor ts is →
      Loose .factor (ts ++ [.operand x]) (is ++ [.operand x])
  | group {ts us : List (Token α)} {is js : List (Item α)} : Loose .factor ts is →
      Loose .sum us js → Loose .factor (ts ++ .opening :: (us ++ [.closing])) (is ++ js)
  | tighter {p : Phrase} {ts : List (Token α)} {is : List (Item α)} :
      Loose p.tighter ts is → Loose p ts is
  | apply {o : Operator} {ts us : List (Token α)} {is js : List (Item α)} :
      Loose o.phrase ts is → Loose o.phrase.tighter us js →
      Loose o.phrase (ts ++ .operator o :: us) (is ++ js ++ [.operator o])

theorem loose_of_order {p : Phrase} {ts : List (Token α)} {t : Tree α} (h : Infix p ts t) :
    Loose p ts t.postorder := by
  induction h with
  | operand x => exact .operand x .empty
  | group _ ih => exact .group .empty ih
  | tighter _ ih => exact .tighter ih
  | apply _ _ iha ihb => exact .apply iha ihb

/-! ## Reading a phrase in loose order -/

theorem Operator.precedence_lt_factor (o : Operator) : o.precedence < Phrase.factor.strength := by
  cases o <;> decide

theorem eq_nil_of_factor {pending : List Operator}
    (tight : ∀ o ∈ pending, Phrase.factor.strength ≤ o.precedence) : pending = [] := by
  refine List.eq_nil_iff_forall_not_mem.mpr fun o ho => ?_
  exact Nat.not_le.mpr o.precedence_lt_factor (tight o ho)

theorem reads_append {stack : List Waiting} {ts us : List (Token α)} {out out' : List (Item α)}
    {pending : List Operator} (first : Reads stack ts out [])
    (second : Reads stack us out' pending) : Reads stack (ts ++ us) (out ++ out') pending := by
  intro rest
  rw [List.append_assoc, first, List.map_nil, List.nil_append, second]
  simp only [Functor.map_map, List.append_assoc]

theorem postfixAfter_loose {p : Phrase} {ts : List (Token α)} {is : List (Item α)}
    (h : Loose p ts is) (stack : List Waiting) (held : Held p.strength stack) :
    ∃ out pending, is = out ++ pending.map .operator ∧
      (∀ o ∈ pending, p.strength ≤ o.precedence) ∧ Reads stack ts out pending := by
  induction h generalizing stack with
  | empty => exact ⟨[], [], rfl, by simp, fun rest => by simp⟩
  | operand x _ ih =>
      obtain ⟨out, pending, rfl, tight, reads⟩ := ih stack held
      obtain rfl := eq_nil_of_factor tight
      exact ⟨out ++ [.operand x], [], by simp, by simp, reads_append reads (reads_operand stack x)⟩
  | group _ _ run inner =>
      obtain ⟨out, pending, rfl, tight, reads⟩ := run stack held
      obtain rfl := eq_nil_of_factor tight
      obtain ⟨out', pending', rfl, -, reads'⟩ := inner _ (held_opening _ stack)
      exact ⟨out ++ (out' ++ pending'.map .operator), [], by simp, by simp,
        reads_append reads (reads_group reads')⟩
  | @tighter p _ _ _ ih =>
      have le := p.strength_le_tighter
      obtain ⟨out, pending, order, tight, reads⟩ := ih stack (held_of_le le held)
      exact ⟨out, pending, order, fun o ho => Nat.le_trans le (tight o ho), reads⟩
  | @apply o ts us is js _ _ left right =>
      rw [o.strength_phrase] at held left ⊢
      rw [o.strength_tighter_phrase] at right
      obtain ⟨out, pending, order, tight, reads⟩ := left stack held
      obtain ⟨out', pending', order', tight', reads'⟩ :=
        right (.operator o :: stack) (held_operator (Nat.lt_succ_self _) stack)
      refine ⟨out ++ pending.map .operator ++ out', pending' ++ [o], ?_, ?_,
        reads_apply reads tight held reads'⟩
      · simp [order, order']
      · intro q hq
        rcases List.mem_append.mp hq with hq | hq
        · exact Nat.le_of_succ_le (tight' q hq)
        · obtain rfl := List.mem_singleton.mp hq
          exact Nat.le_refl _

theorem toPostfix_loose {ts : List (Token α)} {is : List (Item α)} (h : Loose .sum ts is) :
    toPostfix ts = .ok is := by
  obtain ⟨out, pending, rfl, -, reads⟩ := postfixAfter_loose h [] rfl
  have whole := reads []
  rw [List.append_nil, List.append_nil] at whole
  rw [toPostfix, whole, postfixAfter, unwind?_map]
  rfl

theorem toPostfix_infix {ts : List (Token α)} {t : Tree α} (h : Infix .sum ts t) :
    toPostfix ts = .ok t.postorder :=
  toPostfix_loose (loose_of_order h)

/-! ## Tokens that have a postfix order -/

def IsLoose (ts : List (Token α)) : Prop := ∃ is, Loose .sum ts is

theorem Loose.nil (p : Phrase) : Loose p ([] : List (Token α)) [] := by
  cases p with
  | sum => exact .tighter (.tighter .empty)
  | product => exact .tighter .empty
  | factor => exact .empty

theorem Loose.extend {p : Phrase} {ts us : List (Token α)} {is js : List (Item α)}
    (h : Loose p ts is)
    (run : ∀ {ts is}, Loose .factor ts is → Loose .factor (ts ++ us) (is ++ js)) :
    ∃ is', Loose p (ts ++ us) is' := by
  induction h with
  | empty => exact ⟨_, run .empty⟩
  | operand x before => exact ⟨_, run (.operand x before)⟩
  | group before inner => exact ⟨_, run (.group before inner)⟩
  | tighter _ ih =>
      obtain ⟨is', extended⟩ := ih
      exact ⟨is', .tighter extended⟩
  | apply left _ _ ih =>
      obtain ⟨js', extended⟩ := ih
      rw [List.append_assoc, List.cons_append]
      exact ⟨_, .apply left extended⟩

theorem Operator.phrase_eq_of_strength {o : Operator} {p : Phrase} (low : p.strength ≤ o.precedence)
    (high : o.precedence < p.tighter.strength) : p = o.phrase := by
  cases p <;> cases o <;> first | rfl | (revert low high; decide)

-- An operator goes to the phrase of its own kind on the right edge.
theorem Loose.operator {p : Phrase} {ts : List (Token α)} {is : List (Item α)} (h : Loose p ts is)
    {o : Operator} (loose : p.strength ≤ o.precedence) :
    ∃ is', Loose p (ts ++ [.operator o]) is' := by
  have last : ∀ {ts : List (Token α)} {is}, Loose o.phrase ts is →
      ∃ is', Loose o.phrase (ts ++ [.operator o]) is' :=
    fun whole => ⟨_, .apply whole (.nil _)⟩
  have below := o.precedence_lt_factor
  induction h with
  | empty => omega
  | operand => omega
  | group => omega
  | @tighter p _ _ inner ih =>
      by_cases tight : p.tighter.strength ≤ o.precedence
      · obtain ⟨is', extended⟩ := ih tight
        exact ⟨is', .tighter extended⟩
      · obtain rfl := Operator.phrase_eq_of_strength loose (Nat.not_le.mp tight)
        exact last (.tighter inner)
  | @apply q _ _ _ _ left right _ ih =>
      by_cases tight : q.phrase.tighter.strength ≤ o.precedence
      · obtain ⟨is', extended⟩ := ih tight
        rw [List.append_assoc, List.cons_append]
        exact ⟨_, .apply left extended⟩
      · have same := Operator.phrase_eq_of_strength loose (Nat.not_le.mp tight)
        have whole := Loose.apply left right
        rw [same] at whole ⊢
        exact last whole

theorem IsLoose.operand {ts : List (Token α)} (h : IsLoose ts) (x : α) :
    IsLoose (ts ++ [.operand x]) := by
  obtain ⟨is, loose⟩ := h
  exact loose.extend (.operand x)

theorem IsLoose.group {ts us : List (Token α)} (h : IsLoose ts) (inner : IsLoose us) :
    IsLoose (ts ++ .opening :: (us ++ [.closing])) := by
  obtain ⟨is, loose⟩ := h
  obtain ⟨js, inside⟩ := inner
  exact loose.extend fun run => .group run inside

theorem IsLoose.operator {ts : List (Token α)} (h : IsLoose ts) (o : Operator) :
    IsLoose (ts ++ [.operator o]) := by
  obtain ⟨is, loose⟩ := h
  have least : Phrase.sum.strength ≤ o.precedence := by cases o <;> decide
  exact loose.operator least

/-- The tokens read so far: `below` those before each open parenthesis, the last one first, and
`top` those behind it. -/
def enclose : List (List (Token α)) → List (Token α) → List (Token α)
  | [], top => top
  | ts :: below, top => enclose below (ts ++ .opening :: top)

theorem enclose_append (below : List (List (Token α))) (top ts : List (Token α)) :
    enclose below top ++ ts = enclose below (top ++ ts) := by
  induction below generalizing top with
  | nil => rfl
  | cons us below ih => rw [enclose, ih, enclose, List.append_assoc, List.cons_append]

def openings (stack : List Waiting) : Nat := stack.count .opening

theorem openings_release (strength : Nat) (stack : List Waiting) :
    openings (release strength stack).2 = openings stack := by
  fun_induction release strength stack with
  | case1 o stack h released rest eq ih =>
      rw [eq] at ih
      simpa [openings] using ih
  | case2 => rfl
  | case3 => rfl

theorem openings_closeGroup? {stack rest : List Waiting} {released : List Operator}
    (h : closeGroup? stack = some (released, rest)) : openings stack = openings rest + 1 := by
  induction stack generalizing released with
  | nil => cases h
  | cons w stack ih =>
      cases w with
      | opening =>
          cases h
          simp [openings]
      | operator o =>
          obtain ⟨⟨released', rest'⟩, found, eq⟩ := Option.map_eq_some_iff.mp h
          cases eq
          simpa [openings] using ih found

theorem openings_unwind? {stack : List Waiting} {released : List Operator}
    (h : unwind? stack = some released) : openings stack = 0 := by
  induction stack generalizing released with
  | nil => rfl
  | cons w stack ih =>
      cases w with
      | opening => cases h
      | operator o =>
          obtain ⟨released', found, -⟩ := Option.map_eq_some_iff.mp h
          simpa [openings] using ih found

def stackAfter? (stack : List Waiting) : Token α → Option (List Waiting)
  | .operand _ => some stack
  | .operator o => some (.operator o :: (release o.precedence stack).2)
  | .opening => some (.opening :: stack)
  | .closing => (closeGroup? stack).map (·.2)

theorem postfixAfter_cons {stack : List Waiting} {t : Token α} {ts : List (Token α)}
    {is : List (Item α)} (h : postfixAfter stack (t :: ts) = .ok is) :
    ∃ after js, stackAfter? stack t = some after ∧ postfixAfter after ts = .ok js := by
  cases t with
  | item i =>
      cases i with
      | operand x =>
          cases rest : postfixAfter stack ts with
          | error fault =>
              rw [postfixAfter, rest] at h
              cases h
          | ok js => exact ⟨stack, js, rfl, rest⟩
      | operator o =>
          cases rest : postfixAfter (.operator o :: (release o.precedence stack).2) ts with
          | error fault =>
              simp only [postfixAfter, rest] at h
              cases h
          | ok js => exact ⟨_, js, rfl, rest⟩
  | opening => exact ⟨_, is, rfl, h⟩
  | closing =>
      cases found : closeGroup? stack with
      | none =>
          simp only [postfixAfter, found] at h
          cases h
      | some closed =>
          cases rest : postfixAfter closed.2 ts with
          | error fault =>
              simp only [postfixAfter, found, rest] at h
              cases h
          | ok js => exact ⟨closed.2, js, by rw [stackAfter?, found, Option.map_some], rest⟩

theorem isLoose_of_postfixAfter {ts : List (Token α)} {stack : List Waiting} {is : List (Item α)}
    (h : postfixAfter stack ts = .ok is) {below : List (List (Token α))} {top : List (Token α)}
    (depth : openings stack = below.length) (hb : ∀ us ∈ below, IsLoose us) (ht : IsLoose top) :
    IsLoose (enclose below top ++ ts) := by
  induction ts generalizing stack is below top with
  | nil =>
      rw [postfixAfter] at h
      cases found : unwind? stack with
      | none =>
          rw [found] at h
          cases h
      | some released =>
          rw [openings_unwind? found] at depth
          obtain rfl := List.length_eq_zero_iff.mp depth.symm
          rwa [enclose, List.append_nil]
  | cons t ts ih =>
      obtain ⟨after, js, step, rest⟩ := postfixAfter_cons h
      have next : enclose below top ++ t :: ts = enclose below (top ++ [t]) ++ ts := by
        rw [← enclose_append, List.append_assoc, List.singleton_append]
      cases t with
      | item i =>
          rw [next]
          cases i with
          | operand x =>
              cases step
              exact ih rest depth hb (ht.operand x)
          | operator o =>
              cases step
              have kept : openings (.operator o :: (release o.precedence stack).2) =
                  below.length := by
                rw [← depth, ← openings_release o.precedence stack]
                simp [openings]
              exact ih rest kept hb (ht.operator o)
      | opening =>
          cases step
          have deeper : openings (.opening :: stack) = (top :: below).length := by
            simpa [openings] using depth
          have all : ∀ us ∈ top :: below, IsLoose us := List.forall_mem_cons.mpr ⟨ht, hb⟩
          have opened : enclose below top ++ .opening :: ts = enclose (top :: below) [] ++ ts := by
            rw [next, enclose]
          rw [opened]
          exact ih rest deeper all ⟨[], .nil .sum⟩
      | closing =>
          obtain ⟨closed, found, rfl⟩ := Option.map_eq_some_iff.mp step
          have shallower := openings_closeGroup? found
          cases below with
          | nil => simp [shallower] at depth
          | cons us below =>
              have kept : openings closed.2 = below.length := by
                simpa [shallower] using depth
              obtain ⟨hus, hb⟩ := List.forall_mem_cons.mp hb
              have closes : enclose (us :: below) top ++ .closing :: ts =
                  enclose below (us ++ .opening :: (top ++ [.closing])) ++ ts := by
                rw [next, enclose]
              rw [closes]
              exact ih rest kept hb (hus.group ht)

theorem toPostfix_eq_ok_iff {ts : List (Token α)} {is : List (Item α)} :
    toPostfix ts = .ok is ↔ Loose .sum ts is := by
  refine ⟨fun h => ?_, toPostfix_loose⟩
  have loose : IsLoose (enclose [] [] ++ ts) :=
    isLoose_of_postfixAfter h rfl (by simp) ⟨[], .nil .sum⟩
  obtain ⟨js, loose⟩ := loose
  have same := (toPostfix_loose loose).symm.trans h
  rwa [enclose, List.nil_append, Except.ok.inj same] at loose

end Sidekick.Calculator
