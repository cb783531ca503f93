import Sidekick.Proofs.Calculator.Spelling

namespace Sidekick.Calculator
open Text Number

structure MaximalRun (s before run after : List Char) : Prop where
  text : s = before ++ (run ++ after)
  ne_nil : run ≠ []
  numeric : ∀ c ∈ run, isNumeric c = true
  first : ∀ c ∈ before.getLast?, isNumeric c = false
  last : Stops isNumeric after

inductive Part where
  | blank (c : Char)
  | token (source : List Char) (t : Token Float)

namespace Part

def text : Part → List Char
  | blank c => [c]
  | token source _ => source

def source? : Part → Option (List Char)
  | blank _ => none
  | token source _ => some source

def token? : Part → Option (Token Float)
  | blank _ => none
  | token _ t => some t

def isNumber : Part → Bool
  | token _ (.operand _) => true
  | token .. | blank _ => false

end Part

def source (ps : List Part) : List Char := ps.flatMap Part.text

def tokensOf (ps : List Part) : List (Token Float) := ps.filterMap Part.token?

def lastToken (last : Option (Token Float)) (ps : List Part) : Option (Token Float) :=
  (tokensOf ps).getLast?.or last

inductive IsMark : Char → Token Float → Prop
  | operator (o : Operator) : IsMark o.sign (.operator o)
  | opening : IsMark '(' .opening
  | closing : IsMark ')' .closing

def isLegal (c : Char) : Bool := isBlank c || "0123456789.+-*/()".toList.contains c

/-- The parts that are cut off a text behind the token `last`, and what is left of it. The rest
stands there all the while, so that no run is cut in two. -/
inductive Cut : Option (Token Float) → List Char → List Part → List Char → Prop
  | done {last : Option (Token Float)} {rest : List Char} : Cut last rest [] rest
  | blank {last : Option (Token Float)} {c : Char} {s rest : List Char} {ps : List Part} :
      isBlank c = true → Cut last s ps rest → Cut last (c :: s) (.blank c :: ps) rest
  | run {last : Option (Token Float)} {run s rest : List Char} {x : Float} {ps : List Part} :
      IsLiteral run → read? run = some x → Stops isNumeric s →
      Cut (some (.operand x)) s ps rest → Cut last (run ++ s) (.token run (.operand x) :: ps) rest
  | negative {last : Option (Token Float)} {run s rest : List Char} {x : Float} {ps : List Part} :
      operandMayFollow last = true → IsLiteral run → read? ('-' :: run) = some x →
      Stops isNumeric s → Cut (some (.operand x)) s ps rest →
      Cut last ('-' :: (run ++ s)) (.token ('-' :: run) (.operand x) :: ps) rest
  | mark {last : Option (Token Float)} {c : Char} {t : Token Float} {s rest : List Char}
      {ps : List Part} : IsMark c t →
      (c = '-' → operandMayFollow last = true → Stops isNumeric s) →
      Cut (some t) s ps rest → Cut last (c :: s) (.token [c] t :: ps) rest

inductive Fails (last : Option (Token Float)) : List Char → Fault → Prop
  | character {c : Char} {s : List Char} : isLegal c = false →
      Fails last (c :: s) (.invalidCharacter c)
  | run {run s : List Char} : run ≠ [] → (∀ c ∈ run, isNumeric c = true) → ¬ IsLiteral run →
      Stops isNumeric s → Fails last (run ++ s) (.badNumber run)
  | negative {run s : List Char} : operandMayFollow last = true → run ≠ [] →
      (∀ c ∈ run, isNumeric c = true) → ¬ IsLiteral run → Stops isNumeric s →
      Fails last ('-' :: (run ++ s)) (.badNumber ('-' :: run))

variable {last : Option (Token Float)} {s rest : List Char} {ps us vs : List Part}

/-! ## Characters -/

theorem isLegal_of_isNumeric {c : Char} (h : isNumeric c = true) : isLegal c = true := by
  have all : ∀ c ∈ "0123456789.".toList, isLegal c = true := by decide +kernel
  exact all c (mem_of_isNumeric h)

theorem IsMark.plain {c : Char} {t : Token Float} (h : IsMark c t) :
    isBlank c = false ∧ isNumeric c = false ∧ isLegal c = true := by
  cases h with
  | operator o => cases o <;> decide +kernel
  | opening => decide +kernel
  | closing => decide +kernel

theorem sign_of_ofSign? {o : Operator} {c : Char} (h : Operator.ofSign? c = some o) :
    c = o.sign := by
  unfold Operator.ofSign? at h
  split at h <;> cases h <;> rfl

theorem markToken_of_illegal {c : Char} (h : isLegal c = false) :
    markToken (α := Float) c = .error (.invalidCharacter c) := by
  have unmarked (t : Token Float) : ¬ IsMark c t := fun mark => by
    rw [mark.plain.2.2] at h
    cases h
  unfold markToken
  split
  · next o sign => exact absurd (sign_of_ofSign? sign ▸ .operator o) (unmarked (.operator o))
  · split
    · next bracket => exact absurd (bracket ▸ .opening) (unmarked .opening)
    · split
      · next bracket => exact absurd (bracket ▸ .closing) (unmarked .closing)
      · rfl

theorem exists_isMark {c : Char} (legal : isLegal c = true) (plain : isBlank c = false)
    (other : isNumeric c = false) : ∃ t, IsMark c t := by
  have all : ∀ c ∈ "0123456789.+-*/()".toList, isNumeric c = true ∨
      (∃ o ∈ [Operator.add, .sub, .mul, .div], c = o.sign) ∨ c = '(' ∨ c = ')' := by decide +kernel
  rw [isLegal, plain, Bool.false_or, List.contains_iff_mem] at legal
  rcases all c legal with numeric | ⟨o, -, rfl⟩ | rfl | rfl
  · rw [numeric] at other
    cases other
  · exact ⟨_, .operator o⟩
  · exact ⟨_, .opening⟩
  · exact ⟨_, .closing⟩

/-! ## Tokens of what is cut off -/

theorem lastToken_blank (c : Char) : lastToken last (.blank c :: ps) = lastToken last ps := rfl

theorem lastToken_token (source : List Char) (t : Token Float) :
    lastToken last (.token source t :: ps) = lastToken (some t) ps := by
  simp only [lastToken, tokensOf, List.filterMap_cons, Part.token?, List.getLast?_cons]
  cases (ps.filterMap Part.token?).getLast? <;> rfl

theorem lastToken_none (ps : List Part) : lastToken none ps = (tokensOf ps).getLast? :=
  Option.or_none

theorem tokensAfter_isMark {c : Char} {t : Token Float} (mark : IsMark c t)
    (alone : c = '-' → operandMayFollow last = true → Stops isNumeric s) :
    tokensAfter read? last (pieces (c :: s)) =
      (t :: ·) <$> tokensAfter read? (some t) (pieces s) := by
  cases mark with
  | opening => exact tokensAfter_opening s
  | closing => exact tokensAfter_closing s
  | operator o =>
      cases full : operandMayFollow last with
      | false => exact tokensAfter_operator o s full
      | true =>
          cases o with
          | sub =>
              rw [pieces_mark (isNumeric_sign _)]
              have stops := alone rfl full
              cases s with
              | nil => rfl
              | cons d s =>
                  rw [pieces_mark (stops d rfl)]
                  rfl
          | add | mul | div =>
              rw [pieces_mark (isNumeric_sign _)]
              exact tokensAfter_mark (by decide) _

theorem tokensAfter_of_cut (h : Cut last s ps rest) : tokensAfter read? last (pieces s) =
    (tokensOf ps ++ ·) <$> tokensAfter read? (lastToken last ps) (pieces rest) := by
  induction h with
  | done => exact (id_map _).symm
  | @blank last c s rest ps blank _ ih =>
      have one : Blanks [c] := List.forall_mem_singleton.mpr blank
      rw [lastToken_blank, ← List.singleton_append, tokensAfter_blanks one]
      exact ih
  | run literal value stops _ ih =>
      rw [tokensAfter_literal literal value stops, ih, lastToken_token, Functor.map_map]
      rfl
  | negative free literal value stops _ ih =>
      rw [tokensAfter_negative literal value stops free, ih, lastToken_token, Functor.map_map]
      rfl
  | mark mark alone _ ih =>
      rw [tokensAfter_isMark mark alone, ih, lastToken_token, Functor.map_map]
      rfl

theorem operand_eq_error {sign run : List Char} (hs : IsSign sign)
    (numeric : ∀ c ∈ run, isNumeric c = true) (bad : ¬ IsLiteral run) :
    operand read? (sign ++ run) = .error (.badNumber (sign ++ run)) := by
  rw [operand]
  cases value : read? (sign ++ run) with
  | none => rfl
  | some x => exact absurd (isLiteral_of_read? hs numeric value) bad

theorem tokensAfter_of_fails {fault : Fault} (h : Fails last rest fault) :
    tokensAfter read? last (pieces rest) = .error fault := by
  cases h with
  | @character c s illegal =>
      have numeric : isNumeric c = false := by
        cases numeric : isNumeric c with
        | false => rfl
        | true => rw [isLegal_of_isNumeric numeric] at illegal; cases illegal
      have blank : ¬ isBlank c = true := fun blank => by
        rw [isLegal, blank] at illegal
        cases illegal
      have ne : c ≠ '-' := by
        rintro rfl
        exact absurd illegal (by decide +kernel)
      rw [pieces_mark numeric, tokensAfter_mark ne, if_neg blank, markToken_of_illegal illegal]
      rfl
  | run ne numeric bad stops =>
      rw [pieces_run numeric ne stops, tokensAfter]
      have fails := operand_eq_error .none numeric bad
      rw [List.nil_append] at fails
      rw [fails]
      rfl
  | negative free ne numeric bad stops =>
      rw [pieces_mark (by decide), pieces_run numeric ne stops, tokensAfter, if_pos free]
      have fails := operand_eq_error .minus numeric bad
      rw [List.singleton_append] at fails
      rw [fails]
      rfl

/-! ## Up to the end or a failure -/

def Cuts (last : Option (Token Float)) (s : List Char) : Prop :=
  (∃ ps, Cut last s ps []) ∨
    ∃ ps rest fault, Cut last s ps rest ∧ Fails (lastToken last ps) rest fault

theorem Cuts.step {last' : Option (Token Float)} {s' : List Char} {p : Part} (h : Cuts last' s')
    (after : ∀ ps, lastToken last (p :: ps) = lastToken last' ps)
    (cut : ∀ ps rest, Cut last' s' ps rest → Cut last s (p :: ps) rest) : Cuts last s := by
  rcases h with ⟨ps, all⟩ | ⟨ps, rest, fault, part, fails⟩
  · exact .inl ⟨p :: ps, cut ps [] all⟩
  · exact .inr ⟨p :: ps, rest, fault, cut ps rest part, after ps ▸ fails⟩

theorem Cuts.of_fails {fault : Fault} (h : Fails last s fault) : Cuts last s :=
  .inr ⟨[], s, fault, .done, h⟩

theorem not_stops_run {run : List Char} (ne : run ≠ []) (numeric : ∀ c ∈ run, isNumeric c = true)
    (rest : List Char) : ¬ Stops isNumeric (run ++ rest) := by
  obtain ⟨c, run, rfl⟩ := List.exists_cons_of_ne_nil ne
  intro stops
  have figure := numeric c List.mem_cons_self
  rw [stops c rfl] at figure
  cases figure

theorem exists_run (h : ¬ Stops isNumeric s) : ∃ run rest, s = run ++ rest ∧ run ≠ [] ∧
    (∀ c ∈ run, isNumeric c = true) ∧ Stops isNumeric rest := by
  refine ⟨s.takeWhile isNumeric, s.dropWhile isNumeric, List.takeWhile_append_dropWhile.symm,
    fun empty => h fun c hc => ?_, fun d hd => List.all_eq_true.mp List.all_takeWhile d hd,
    fun d hd => ?_⟩
  · obtain ⟨r, rfl⟩ := List.head?_eq_some_iff.mp hc
    cases numeric : isNumeric c with
    | false => rfl
    | true =>
        rw [List.takeWhile_cons_of_pos numeric] at empty
        cases empty
  · have first := List.head?_dropWhile_not isNumeric s
    rw [show (s.dropWhile isNumeric).head? = some d from hd] at first
    simpa using first

section

variable {run : List Char} (ne : run ≠ []) (numeric : ∀ c ∈ run, isNumeric c = true)
  (stops : Stops isNumeric s) (later : ∀ last, Cuts last s)

include ne numeric stops later

theorem Cuts.of_run : Cuts last (run ++ s) := by
  by_cases literal : IsLiteral run
  · obtain ⟨x, value⟩ := Option.isSome_iff_exists.mp (literal.isSome_read? .none)
    exact (later _).step (fun _ => lastToken_token _ _) fun _ _ => .run literal value stops
  · exact .of_fails (.run ne numeric literal stops)

theorem Cuts.of_negative (free : operandMayFollow last = true) : Cuts last ('-' :: (run ++ s)) := by
  by_cases literal : IsLiteral run
  · obtain ⟨x, value⟩ := Option.isSome_iff_exists.mp (literal.isSome_read? .minus)
    exact (later _).step (fun _ => lastToken_token _ _)
      fun _ _ => .negative free literal value stops
  · exact .of_fails (.negative free ne numeric literal stops)

end

theorem Cuts.of_other {c : Char} (plain : isBlank c = false) (other : isNumeric c = false)
    (alone : c = '-' → operandMayFollow last = true → Stops isNumeric s)
    (later : ∀ last, Cuts last s) : Cuts last (c :: s) := by
  cases legal : isLegal c with
  | true =>
      obtain ⟨t, mark⟩ := exists_isMark legal plain other
      exact (later _).step (fun _ => lastToken_token _ _) fun _ _ => .mark mark alone
  | false => exact .of_fails (.character legal)

theorem cut_total (last : Option (Token Float)) (s : List Char) : Cuts last s := by
  -- A run is cut off at once, so the induction is on the length and not on the text.
  induction hn : s.length using Nat.strongRecOn generalizing s last with
  | ind n ih =>
      subst hn
      have later {t : List Char} (shorter : t.length < s.length) (last : Option (Token Float)) :
          Cuts last t := ih _ shorter last t rfl
      by_cases stops : Stops isNumeric s
      · cases s with
        | nil => exact .inl ⟨[], .done⟩
        | cons c s =>
            cases blank : isBlank c with
            | true =>
                exact (later (Nat.lt_succ_self _) last).step (fun _ => rfl) fun _ _ => .blank blank
            | false =>
                by_cases minus : c = '-' ∧ operandMayFollow last = true ∧ ¬ Stops isNumeric s
                · obtain ⟨rfl, free, go⟩ := minus
                  obtain ⟨run, rest, rfl, ne, numeric, stops⟩ := exists_run go
                  refine .of_negative ne numeric stops (later ?_) free
                  rw [List.length_cons, List.length_append]
                  omega
                · refine .of_other blank (stops c rfl) (fun dash free => ?_)
                    (later (Nat.lt_succ_self _))
                  exact Classical.byContradiction fun go => minus ⟨dash, free, go⟩
      · obtain ⟨run, rest, rfl, ne, numeric, stops⟩ := exists_run stops
        refine .of_run ne numeric stops (later ?_)
        rw [List.length_append]
        have := List.length_pos_iff.mpr ne
        omega

end Sidekick.Calculator
