import Sidekick.Proofs.Calculator.Heights
import Sidekick.Proofs.Calculator.Loose
import Sidekick.Proofs.Calculator.Spelling
import Sidekick.Proofs.Results

namespace Sidekick.Calculator

variable {α : Type}

/-! ## Parentheses -/

def opened (ts : List (Token α)) : Nat :=
  ts.countP fun | .opening => true | _ => false

def closed (ts : List (Token α)) : Nat :=
  ts.countP fun | .closing => true | _ => false

@[simp] theorem opened_nil : opened ([] : List (Token α)) = 0 := rfl

@[simp] theorem closed_nil : closed ([] : List (Token α)) = 0 := rfl

@[simp] theorem opened_item (i : Item α) (ts : List (Token α)) :
    opened (.item i :: ts) = opened ts :=
  List.countP_cons_of_neg Bool.false_ne_true

@[simp] theorem opened_opening (ts : List (Token α)) : opened (.opening :: ts) = opened ts + 1 :=
  List.countP_cons_of_pos rfl

@[simp] theorem opened_closing (ts : List (Token α)) : opened (.closing :: ts) = opened ts :=
  List.countP_cons_of_neg Bool.false_ne_true

@[simp] theorem closed_item (i : Item α) (ts : List (Token α)) :
    closed (.item i :: ts) = closed ts :=
  List.countP_cons_of_neg Bool.false_ne_true

@[simp] theorem closed_opening (ts : List (Token α)) : closed (.opening :: ts) = closed ts :=
  List.countP_cons_of_neg Bool.false_ne_true

@[simp] theorem closed_closing (ts : List (Token α)) : closed (.closing :: ts) = closed ts + 1 :=
  List.countP_cons_of_pos rfl

/-- Behind `n` open parentheses, no prefix closes more than are open, and the whole closes all. -/
def Balanced (n : Nat) (ts : List (Token α)) : Prop :=
  (∀ before, before <+: ts → closed before ≤ n + opened before) ∧ closed ts = n + opened ts

theorem balanced_nil {n : Nat} : Balanced n ([] : List (Token α)) ↔ n = 0 := by
  simp [Balanced, eq_comm]

theorem forall_prefix_cons {β : Type} {b : β} {bs : List β} {p : List β → Prop} :
    (∀ before, before <+: b :: bs → p before) ↔
      p [] ∧ ∀ before, before <+: bs → p (b :: before) := by
  simp only [List.prefix_cons_iff]
  constructor
  · exact fun h => ⟨h [] (.inl rfl), fun before rest => h _ (.inr ⟨before, rfl, rest⟩)⟩
  · rintro ⟨none, some⟩ before (rfl | ⟨before, rfl, rest⟩)
    · exact none
    · exact some before rest

theorem balanced_item {n : Nat} {i : Item α} {ts : List (Token α)} :
    Balanced n (.item i :: ts) ↔ Balanced n ts := by
  simp only [Balanced, forall_prefix_cons, closed_nil, Nat.zero_le, true_and, opened_item,
    closed_item]

theorem balanced_opening {n : Nat} {ts : List (Token α)} :
    Balanced n (.opening :: ts) ↔ Balanced (n + 1) ts := by
  simp only [Balanced, forall_prefix_cons, closed_nil, Nat.zero_le, true_and, opened_opening,
    closed_opening, Nat.add_assoc, Nat.add_comm 1]

theorem balanced_closing {n : Nat} {ts : List (Token α)} :
    Balanced (n + 1) (.closing :: ts) ↔ Balanced n ts := by
  simp only [Balanced, forall_prefix_cons, closed_nil, Nat.zero_le, true_and, opened_closing,
    closed_closing, Nat.add_right_comm n 1, Nat.add_le_add_iff_right, Nat.add_right_cancel_iff]

theorem not_balanced_closing {ts : List (Token α)} : ¬ Balanced 0 (.closing :: ts) := fun h =>
  absurd (h.1 [.closing] ⟨ts, rfl⟩) (by simp)

/-! ## Which tokens have a postfix order -/

theorem openings_of_closeGroup?_none {stack : List Waiting} (h : closeGroup? stack = none) :
    openings stack = 0 := by
  induction stack with
  | nil => rfl
  | cons w stack ih =>
      cases w with
      | opening => cases h
      | operator o => simpa [openings] using ih (Option.map_eq_none_iff.mp h)

theorem openings_of_unwind?_none {stack : List Waiting} (h : unwind? stack = none) :
    openings stack ≠ 0 := by
  induction stack with
  | nil => cases h
  | cons w stack ih =>
      cases w with
      | opening => simp [openings]
      | operator o => simpa [openings] using ih (Option.map_eq_none_iff.mp h)

def AnswersBalance (n : Nat) (ts : List (Token α)) (result : Except Fault (List (Item α))) : Prop :=
  Balanced n ts ∧ (∃ is, result = .ok is) ∨
    ¬ Balanced n ts ∧ result = .error .mismatchedParentheses

theorem AnswersBalance.map {n m : Nat} {ts us : List (Token α)}
    {result : Except Fault (List (Item α))} (h : AnswersBalance n ts result)
    (same : Balanced m us ↔ Balanced n ts) (f : List (Item α) → List (Item α)) :
    AnswersBalance m us (result >>= fun is => pure (f is)) := by
  rcases h with ⟨balanced, is, rfl⟩ | ⟨unbalanced, rfl⟩
  · exact .inl ⟨same.mpr balanced, f is, rfl⟩
  · exact .inr ⟨mt same.mp unbalanced, rfl⟩

theorem answersBalance_postfixAfter (stack : List Waiting) (ts : List (Token α)) :
    AnswersBalance (openings stack) ts (postfixAfter stack ts) := by
  induction ts generalizing stack with
  | nil =>
      rw [AnswersBalance, balanced_nil, postfixAfter]
      cases found : unwind? stack with
      | none => exact .inr ⟨openings_of_unwind?_none found, rfl⟩
      | some released => exact .inl ⟨openings_unwind? found, _, rfl⟩
  | cons t ts ih =>
      cases t with
      | item i =>
          cases i with
          | operand x => exact (ih stack).map balanced_item (.operand x :: ·)
          | operator o =>
              have kept : openings (.operator o :: (release o.precedence stack).2) =
                  openings stack := by
                rw [← openings_release o.precedence stack]
                simp [openings]
              have rest := ih (.operator o :: (release o.precedence stack).2)
              rw [kept] at rest
              exact rest.map balanced_item _
      | opening =>
          have deeper : openings (.opening :: stack) = openings stack + 1 := by simp [openings]
          have rest := ih (.opening :: stack)
          rw [deeper, AnswersBalance, ← balanced_opening] at rest
          exact rest
      | closing =>
          rw [postfixAfter]
          cases found : closeGroup? stack with
          | none =>
              rw [openings_of_closeGroup?_none found]
              exact .inr ⟨not_balanced_closing, rfl⟩
          | some closed =>
              rw [openings_closeGroup? found]
              exact (ih closed.2).map balanced_closing _

theorem answersBalance_toPostfix (ts : List (Token α)) :
    AnswersBalance 0 ts (toPostfix ts) :=
  answersBalance_postfixAfter [] ts

/-! ## The order of the items -/

def itemsOf (ts : List (Token α)) : List (Item α) :=
  ts.filterMap fun | .item i => some i | .opening | .closing => none

theorem itemsOf_nil : itemsOf ([] : List (Token α)) = [] := rfl

theorem itemsOf_opening (ts : List (Token α)) : itemsOf (.opening :: ts) = itemsOf ts := rfl

theorem itemsOf_closing (ts : List (Token α)) : itemsOf (.closing :: ts) = itemsOf ts := rfl

theorem itemsOf_append (ts us : List (Token α)) : itemsOf (ts ++ us) = itemsOf ts ++ itemsOf us :=
  List.filterMap_append

/-- `is` are the items `js`, each with its place there, counted from `n`: whatever comes before an
operand stood before it. So operands keep their order, and no operator overtakes one. -/
def Postponed (n : Nat) (js is : List (Item α)) : Prop :=
  ∃ placed : List (Item α × Nat), placed.map Prod.fst = is ∧ placed.Perm (js.zipIdx n) ∧
    placed.Pairwise fun p q => q.1.isOperand = true → p.2 < q.2

namespace Postponed

variable {n : Nat} {js ks is ls : List (Item α)}

theorem nil : Postponed n ([] : List (Item α)) [] := ⟨[], rfl, .nil, .nil⟩

theorem operand (x : α) : Postponed n [.operand x] [.operand x] :=
  ⟨[(.operand x, n)], rfl, .refl _, List.pairwise_singleton _ _⟩

theorem append (first : Postponed n js is) (second : Postponed (n + js.length) ks ls) :
    Postponed n (js ++ ks) (is ++ ls) := by
  obtain ⟨placed, rfl, perm, order⟩ := first
  obtain ⟨placed', rfl, perm', order'⟩ := second
  refine ⟨placed ++ placed', List.map_append, ?_, ?_⟩
  · rw [List.zipIdx_append]
    exact perm.append perm'
  · refine List.pairwise_append.mpr ⟨order, order', fun p hp q hq _ => ?_⟩
    have before := List.snd_lt_add_of_mem_zipIdx (perm.mem_iff.mp hp)
    have behind := List.le_snd_of_mem_zipIdx (perm'.mem_iff.mp hq)
    exact Nat.lt_of_lt_of_le before behind

theorem operator (o : Operator) (later : Postponed (n + 1) js is) :
    Postponed n (.operator o :: js) (is ++ [.operator o]) := by
  obtain ⟨placed, rfl, perm, order⟩ := later
  refine ⟨placed ++ [(.operator o, n)], List.map_append, ?_, ?_⟩
  · rw [List.zipIdx_cons]
    exact (List.perm_append_singleton _ _).trans (perm.cons _)
  · refine List.pairwise_append.mpr ⟨order, List.pairwise_singleton _ _, fun p _ q hq operand => ?_⟩
    obtain rfl := List.mem_singleton.mp hq
    cases operand

theorem perm (h : Postponed n js is) : is.Perm js := by
  obtain ⟨placed, rfl, perm, -⟩ := h
  have same := perm.map Prod.fst
  rwa [List.zipIdx_map_fst] at same

theorem pairwise_zipIdx (n : Nat) (js : List (Item α)) :
    (js.zipIdx n).Pairwise fun p q => p.2 < q.2 := by
  rw [← List.pairwise_map (f := Prod.snd), List.zipIdx_map_snd]
  exact List.pairwise_lt_range'

theorem filter_isOperand (h : Postponed n js is) :
    is.filter Item.isOperand = js.filter Item.isOperand := by
  obtain ⟨placed, rfl, perm, order⟩ := h
  have operands : placed.filter (·.1.isOperand) = (js.zipIdx n).filter (·.1.isOperand) := by
    have ascending : (placed.filter (·.1.isOperand)).Pairwise fun p q => p.2 < q.2 :=
      (order.filter _).imp_of_mem fun _ hq before => before (List.mem_filter.mp hq).2
    refine List.Perm.eq_of_pairwise ?_ ascending ((pairwise_zipIdx n js).filter _) (perm.filter _)
    exact fun p q _ _ less greater => absurd less (Nat.lt_asymm greater)
  have names := congrArg (List.map Prod.fst) operands
  rwa [← Function.comp_def Item.isOperand, ← List.filter_map, ← List.filter_map,
    List.zipIdx_map_fst] at names

end Postponed

theorem postponed_of_loose {p : Phrase} {ts : List (Token α)} {is : List (Item α)}
    (h : Loose p ts is) (n : Nat) : Postponed n (itemsOf ts) is := by
  induction h generalizing n with
  | empty => exact .nil
  | operand x _ ih =>
      rw [itemsOf_append]
      exact (ih n).append (.operand x)
  | @group ts us is js _ _ ih inner =>
      rw [itemsOf_append, itemsOf_opening, itemsOf_append, itemsOf_closing, itemsOf_nil,
        List.append_nil]
      exact (ih n).append (inner _)
  | tighter _ ih => exact ih n
  | @apply o ts us is js _ _ left right =>
      rw [itemsOf_append, List.append_assoc]
      exact (left n).append ((right _).operator o)

/-! ## How the evaluation of a text ends -/

def Fault.IsIllegible (fault : Fault) : Prop :=
  (∃ text, fault = .badNumber text) ∨ ∃ c, fault = .invalidCharacter c

theorem isIllegible_of_operand {read : List Char → Option α} {text : List Char} {fault : Fault}
    (h : operand read text = .error fault) : fault.IsIllegible := by
  rw [operand] at h
  cases value : read text with
  | none =>
      rw [value] at h
      cases h
      exact .inl ⟨text, rfl⟩
  | some x =>
      rw [value] at h
      cases h

theorem isIllegible_of_markToken {c : Char} {fault : Fault}
    (h : markToken (α := α) c = .error fault) : fault.IsIllegible := by
  rw [markToken] at h
  cases sign : Operator.ofSign? c with
  | some o =>
      rw [sign] at h
      cases h
  | none =>
      by_cases opening : c = '('
      · simp only [sign, if_pos opening] at h
        cases h
      · by_cases closing : c = ')'
        · simp only [sign, if_neg opening, if_pos closing] at h
          cases h
        · simp only [sign, if_neg opening, if_neg closing] at h
          cases h
          exact .inr ⟨c, rfl⟩

theorem isIllegible_of_step {β γ : Type} {x : Except Fault β} {rest : β → Except Fault γ}
    {f : β → γ → γ} {fault : Fault} (first : x = .error fault → fault.IsIllegible)
    (later : ∀ b, rest b = .error fault → fault.IsIllegible)
    (h : (do let b ← x; return f b (← rest b)) = .error fault) : fault.IsIllegible := by
  obtain failed | ⟨b, -, h⟩ := error_or_of_bind_eq_error h
  · exact first failed
  · obtain failed | ⟨c, -, h⟩ := error_or_of_bind_eq_error h
    · exact later b failed
    · cases h

theorem isIllegible_of_tokensAfter {read : List Char → Option α} {last : Option (Token α)}
    {ps : List Piece} {fault : Fault} (h : tokensAfter read last ps = .error fault) :
    fault.IsIllegible := by
  fun_induction tokensAfter read last ps with
  | case1 => cases h
  | case2 last text rest ih =>
      exact isIllegible_of_step isIllegible_of_operand ih h
  | case3 last text rest free ih =>
      exact isIllegible_of_step isIllegible_of_operand ih h
  | case4 last text rest full ih =>
      exact isIllegible_of_step (f := fun t later => .operator .sub :: t :: later)
        isIllegible_of_operand ih h
  | case5 last c rest _ blank ih => exact ih h
  | case6 last c rest _ plain ih =>
      exact isIllegible_of_step isIllegible_of_markToken ih h

inductive Ends (s : List Char) : Except Fault Float → Prop
  | illegible {fault : Fault} : tokens Number.read? s = .error fault → fault.IsIllegible →
      Ends s (.error fault)
  | mismatched {ts : List (Token Float)} : tokens Number.read? s = .ok ts → ¬ Balanced 0 ts →
      Ends s (.error .mismatchedParentheses)
  | missing {ts : List (Token Float)} {is : List (Item Float)} : tokens Number.read? s = .ok ts →
      toPostfix ts = .ok is → Starves 0 is → Ends s (.error .missingOperand)
  | invalid {ts : List (Token Float)} {is : List (Item Float)} : tokens Number.read? s = .ok ts →
      toPostfix ts = .ok is → ¬ Starves 0 is → height is ≠ 1 → Ends s (.error .invalidExpression)
  | value {ts : List (Token Float)} {t : Tree Float} : tokens Number.read? s = .ok ts →
      toPostfix ts = .ok t.postorder → Ends s (.ok (t.value arithmetic))

theorem evaluate_of_tokens {s : List Char} {ts : List (Token Float)}
    (cut : tokens Number.read? s = .ok ts) :
    evaluate s = toPostfix ts >>= evaluatePostfix arithmetic := by
  rw [evaluate, evaluateWith, cut]
  rfl

theorem evaluate_ends (s : List Char) : Ends s (evaluate s) := by
  cases cut : tokens Number.read? s with
  | error fault =>
      rw [evaluate, evaluateWith, cut]
      exact .illegible cut (isIllegible_of_tokensAfter cut)
  | ok ts =>
      rw [evaluate_of_tokens cut]
      rcases answersBalance_toPostfix ts with ⟨-, is, order⟩ | ⟨unbalanced, failed⟩
      · rw [order]
        show Ends s (evaluatePostfix arithmetic is)
        have ends := evaluatePostfix_ends arithmetic is
        rw [EndsByHeight, Int.zero_add] at ends
        rcases ends with ⟨starves, result⟩ | ⟨fed, ⟨high, result⟩ | ⟨-, x, result⟩⟩
        · rw [result]
          exact .missing cut order starves
        · rw [result]
          exact .invalid cut order fed high
        · obtain ⟨t, rfl, rfl⟩ := evaluatePostfix_eq_ok_iff.mp result
          rw [result]
          exact .value cut order
      · rw [failed]
        exact .mismatched cut unbalanced

structure Rearranges (ts : List (Token α)) : Prop where
  mismatched : toPostfix ts = .error .mismatchedParentheses ↔ ¬ Balanced 0 ts
  ordered : Balanced 0 ts → ∃ is, toPostfix ts = .ok is ∧ is.Perm (itemsOf ts) ∧
    is.filter Item.isOperand = (itemsOf ts).filter Item.isOperand ∧ Postponed 0 (itemsOf ts) is

theorem toPostfix_rearranges :
    (∀ (α : Type) (ts : List (Token α)), Rearranges ts) ∧ ∀ s, Ends s (evaluate s) := by
  refine ⟨fun α ts => ?_, evaluate_ends⟩
  rcases answersBalance_toPostfix ts with ⟨balanced, is, order⟩ | ⟨unbalanced, failed⟩
  · have postponed := postponed_of_loose (toPostfix_eq_ok_iff.mp order) 0
    refine ⟨by simp [order, balanced], fun _ => ⟨is, order, postponed.perm, ?_, postponed⟩⟩
    exact postponed.filter_isOperand
  · exact ⟨by simp [failed, unbalanced], fun balanced => absurd balanced unbalanced⟩

end Sidekick.Calculator
