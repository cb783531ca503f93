import Sidekick.Joke
import Sidekick.Proofs.Field.Failing
import Sidekick.Proofs.Web.Fetching

namespace Sidekick.Joke
open Web Sidekick.Field

/-! ## What an answer holds -/

def Yields (r : Option Response) (joke : String) : Prop :=
  ∃ text, answer r = .ok text ∧ string? text.toList "joke".toList = .ok (some joke.toList) ∧
    joke ≠ ""

def NoJoke (r : Option Response) : Prop := ∀ joke, ¬ Yields r joke

def Unreadable (r : Option Response) : Prop :=
  ∃ text, answer r = .ok text ∧ HasNegative text.toList "joke".toList

def jokeOf (r : Option Response) : Except Fault (Option String) :=
  match answer r with
  | .error _ => .ok none
  | .ok text => parse? text.toList

variable {r : Option Response}

theorem parse?_eq_some_iff {text : List Char} {joke : String} :
    parse? text = .ok (some joke) ↔
      string? text "joke".toList = .ok (some joke.toList) ∧ joke ≠ "" := by
  have empty : joke = "" ↔ joke.toList = [] := by
    rw [← String.toList_inj]
    rfl
  rw [parse?, ne_eq, empty]
  cases string? text "joke".toList with
  | error fault => simp [bind, Except.bind]
  | ok found =>
      rcases found with _ | _ | ⟨c, s⟩
      · simp [bind, Except.bind, pure, Except.pure]
      · simp only [bind, Except.bind, pure, Except.pure, Except.ok.injEq, Option.some.injEq]
        exact iff_of_false (by simp) fun h => h.2 h.1.symm
      · simp only [bind, Except.bind, pure, Except.pure, Except.ok.injEq, Option.some.injEq]
        constructor
        · rintro rfl
          simp
        · rintro ⟨same, -⟩
          rw [same, String.ofList_toList]

theorem parse?_eq_error_iff {text : List Char} {fault : Fault} :
    parse? text = .error fault ↔ string? text "joke".toList = .error fault := by
  rw [parse?]
  cases string? text "joke".toList with
  | error fault => simp [bind, Except.bind]
  | ok found => rcases found with _ | _ | _ <;> simp [bind, Except.bind, pure, Except.pure]

theorem jokeOf_eq_some_iff {joke : String} : jokeOf r = .ok (some joke) ↔ Yields r joke := by
  rw [jokeOf, Yields]
  cases answer r with
  | error fault => simp
  | ok text => simp [parse?_eq_some_iff]

theorem jokeOf_eq_error_iff {fault : Fault} :
    jokeOf r = .error fault ↔ Unreadable r ∧ fault = .negativeCharacter := by
  rw [jokeOf, Unreadable]
  cases answer r with
  | error fault => simp
  | ok text => simp [parse?_eq_error_iff, string?_eq_error_iff]

theorem jokeOf_cases (r : Option Response) :
    (∃ joke, jokeOf r = .ok (some joke) ∧ Yields r joke) ∨
      (jokeOf r = .ok none ∧ NoJoke r ∧ ¬ Unreadable r) ∨
      jokeOf r = .error .negativeCharacter ∧ Unreadable r := by
  cases found : jokeOf r with
  | error fault =>
      obtain ⟨unread, rfl⟩ := jokeOf_eq_error_iff.mp found
      exact .inr (.inr ⟨rfl, unread⟩)
  | ok joke =>
      cases joke with
      | some joke => exact .inl ⟨joke, rfl, jokeOf_eq_some_iff.mp found⟩
      | none =>
          refine .inr (.inl ⟨rfl, fun joke yields => ?_, fun unread => ?_⟩)
          · rw [jokeOf_eq_some_iff.mpr yields] at found
            cases found
          · rw [jokeOf_eq_error_iff.mpr ⟨unread, rfl⟩] at found
            cases found

theorem Unreadable.noJoke (h : Unreadable r) : NoJoke r := by
  intro joke yields
  have failed := jokeOf_eq_error_iff.mpr ⟨h, rfl⟩
  rw [jokeOf_eq_some_iff.mpr yields] at failed
  cases failed

/-! ## Asking the providers -/

def request (p : Provider) : WebRequest :=
  ⟨p.url, [("Accept", "application/json"), agent], timeout⟩

def shown (p : Provider) (joke : String) : String :=
  "😂 " ++ joke ++ "\n\n_Source: " ++ p.source ++ "_"

theorem run_online_cons (p : Provider) (ps : List Provider) (w : World) :
    ∃ v, Requested (request p) w v ∧ (online (p :: ps)).run w =
      match jokeOf w.responses.head? with
      | .error fault => (.error fault, v)
      | .ok none => (online ps).run v
      | .ok (some joke) => (.ok (some (shown p joke)), v) := by
  obtain ⟨u, fetch, asked⟩ := run_fetch p.url [("Accept", "application/json"), agent] w
  obtain ⟨v, run, asked⟩ := run_rescued fetch asked fun fault =>
    "  [joke] " ++ p.name ++ " failed: " ++ fault.message
  refine ⟨v, asked, ?_⟩
  rw [online, Act.run_bind, show (ask p).run w = _ from run, jokeOf]
  cases answer w.responses.head? with
  | error fault => rfl
  | ok text =>
      simp only [Except.toOption, Act.run_bind, Act.run_ofExcept]
      rcases parse? text.toList with _ | _ | _ <;> rfl

def Passed (rs : List Response) (n : Nat) : Prop :=
  ∀ i < n, NoJoke rs[i]? ∧ ¬ Unreadable rs[i]?

/-- The number of providers that are asked in turn, and what comes of it. -/
inductive Search (ps : List Provider) (rs : List Response) :
    Nat → Except Fault (Option String) → Prop
  | nobody : Passed rs ps.length → Search ps rs ps.length (.ok none)
  | found {n : Nat} {p : Provider} {joke : String} : Passed rs n → ps[n]? = some p →
      Yields rs[n]? joke → Search ps rs (n + 1) (.ok (some (shown p joke)))
  | stuck {n : Nat} : Passed rs n → n < ps.length → Unreadable rs[n]? →
      Search ps rs (n + 1) (.error .negativeCharacter)

theorem Passed.succ {rs : List Response} {n : Nat} (none : NoJoke rs.head?)
    (readable : ¬ Unreadable rs.head?) (h : Passed rs.tail n) : Passed rs (n + 1) := by
  rw [List.head?_eq_getElem?] at none readable
  intro i hi
  cases i with
  | zero => exact ⟨none, readable⟩
  | succ i =>
      rw [← List.getElem?_tail]
      exact h i (Nat.lt_of_succ_lt_succ hi)

theorem Search.next {p : Provider} {ps : List Provider} {rs : List Response} {n : Nat}
    {result : Except Fault (Option String)} (none : NoJoke rs.head?)
    (readable : ¬ Unreadable rs.head?) (h : Search ps rs.tail n result) :
    Search (p :: ps) rs (n + 1) result := by
  cases h with
  | nobody passed => exact .nobody (passed.succ none readable)
  | found passed nth yields =>
      rw [List.getElem?_tail] at yields
      exact .found (passed.succ none readable) nth yields
  | stuck passed bound unread =>
      rw [List.getElem?_tail] at unread
      exact .stuck (passed.succ none readable) (Nat.succ_lt_succ bound) unread

theorem run_online (ps : List Provider) (w : World) : ∃ n result v,
    (online ps).run w = (result, v) ∧ Search ps w.responses n result ∧
    v.events = w.events ++ (ps.take n).map (fun p => .requested (request p)) ∧ v.pick = w.pick := by
  induction ps generalizing w with
  | nil => exact ⟨0, _, w, rfl, .nobody (by simp [Passed]), by simp, rfl⟩
  | cons p ps ih =>
      obtain ⟨v, asked, run⟩ := run_online_cons p ps w
      have start : Passed w.responses 0 := by simp [Passed]
      rcases jokeOf_cases w.responses.head? with
        ⟨joke, found, yields⟩ | ⟨found, none, readable⟩ | ⟨found, unread⟩
      · rw [found] at run
        rw [List.head?_eq_getElem?] at yields
        exact ⟨1, _, v, run, .found start (by simp) yields, asked.events, asked.pick⟩
      · -- The provider took one answer; those after it search through the answers left.
        obtain ⟨n, result, u, rest, search, events, pick⟩ := ih v
        rw [found] at run
        rw [asked.responses] at search
        refine ⟨n + 1, result, u, run.trans rest, search.next none readable, ?_,
          pick.trans asked.pick⟩
        rw [events, asked.events, List.take_succ_cons, List.map_cons, List.append_assoc]
        rfl
      · rw [found] at run
        rw [List.head?_eq_getElem?] at unread
        exact ⟨1, _, v, run, .stuck start (by simp) unread, asked.events, asked.pick⟩

/-! ## Replies -/

/-- There is a reply: the first joke that comes, or one of the list if none comes; and a provider is
asked just if none of those before it has a joke. -/
structure Answered (w : World) (out : Except Fault String × World) : Prop where
  replies : ∃ text, out.1 = .ok text
  asked : ∃ n ≤ providers.length,
    out.2.events = w.events ++ (providers.take n).map (fun p => .requested (request p)) ∧
      ∀ i < providers.length, i < n ↔ ∀ j < i, NoJoke w.responses[j]?
  online : ∀ i < providers.length, (∀ j < i, NoJoke w.responses[j]?) →
    ∀ joke, Yields w.responses[i]? joke → ∀ p ∈ providers[i]?, out.1 = .ok (shown p joke)
  offline : (∃ text ∈ offline, out.1 = .ok text) ↔
    ∀ i < providers.length, NoJoke w.responses[i]?

/-- An answer that cannot be decoded, and none before it has a joke. -/
def Stuck (rs : List Response) : Prop :=
  ∃ i < providers.length, (∀ j < i, NoJoke rs[j]?) ∧ Unreadable rs[i]?

theorem Passed.silent {rs : List Response} {n : Nat} (h : Passed rs n) :
    ∀ i < n, NoJoke rs[i]? := fun i hi => (h i hi).1

theorem asked_iff {rs : List Response} {n i : Nat} {joke : String} (silent : ∀ j < n, NoJoke rs[j]?)
    (yields : Yields rs[n]? joke) : i < n + 1 ↔ ∀ j < i, NoJoke rs[j]? := by
  constructor
  · exact fun hi j hj => silent j (by omega)
  · intro before
    exact Nat.lt_succ_of_le (Nat.le_of_not_lt fun beyond => before n beyond joke yields)

theorem shown_not_mem_offline (p : Provider) (joke : String) : shown p joke ∉ offline := by
  have ends : ∀ text ∈ offline, text.toList.getLast? ≠ some '_' := by decide +kernel
  intro mem
  refine ends _ mem ?_
  rw [shown, String.toList_append, List.getLast?_append]
  rfl

theorem run_reply (w : World) : ∃ n result v, Search providers w.responses n result ∧
    reply.run w = (result.map (·.getD (offline.getD (w.pick % offline.length) "")), v) ∧
    v.events = w.events ++ (providers.take n).map fun p => .requested (request p) := by
  obtain ⟨n, result, v, run, search, events, pick⟩ := run_online providers w
  refine ⟨n, result, v, search, ?_, events⟩
  rw [reply, Act.run_bind, run]
  rcases result with _ | _ | _
  · rfl
  · simp only [Act.run_bind, Act.run_get, pick]
    rfl
  · rfl

variable {w v : World}

theorem answered_found {n : Nat} {p : Provider} {joke : String} (passed : Passed w.responses n)
    (nth : providers[n]? = some p) (yields : Yields w.responses[n]? joke)
    (events : v.events =
      w.events ++ (providers.take (n + 1)).map fun p => .requested (request p)) :
    Answered w (.ok (shown p joke), v) := by
  have bound : n < providers.length := (List.getElem?_eq_some_iff.mp nth).1
  refine ⟨⟨_, rfl⟩, ⟨n + 1, bound, events, fun i _ => asked_iff passed.silent yields⟩, ?_, ?_⟩
  · intro i _ silent joke' yields' p' nth'
    obtain rfl : i = n := by
      rcases Nat.lt_trichotomy i n with lt | eq | gt
      · exact absurd yields' (passed.silent i lt joke')
      · exact eq
      · exact absurd yields (silent n gt joke)
    have same := jokeOf_eq_some_iff.mpr yields
    rw [jokeOf_eq_some_iff.mpr yields'] at same
    obtain rfl : p = p' := Option.some.inj (nth.symm.trans nth')
    rw [Option.some.inj (Except.ok.inj same)]
  · refine iff_of_false ?_ fun none => none n bound joke yields
    rintro ⟨text, mem, eq⟩
    rw [← Except.ok.inj eq] at mem
    exact shown_not_mem_offline p joke mem

theorem answered_nobody (passed : Passed w.responses providers.length)
    (events : v.events =
      w.events ++ (providers.take providers.length).map fun p => .requested (request p))
    {text : String} (mem : text ∈ offline) : Answered w (.ok text, v) := by
  refine ⟨⟨text, rfl⟩, ⟨providers.length, Nat.le_refl _, events, fun i hi => ?_⟩, ?_, ?_⟩
  · exact iff_of_true hi fun j hj => passed.silent j (Nat.lt_trans hj hi)
  · exact fun i hi _ joke yields => absurd yields (passed.silent i hi joke)
  · exact iff_of_true ⟨text, mem, rfl⟩ passed.silent

theorem not_stuck_of_found {rs : List Response} {n : Nat} {joke : String} (passed : Passed rs n)
    (yields : Yields rs[n]? joke) : ¬ Stuck rs := by
  rintro ⟨i, -, silent, unread⟩
  rcases Nat.lt_trichotomy i n with lt | rfl | gt
  · exact (passed i lt).2 unread
  · exact unread.noJoke joke yields
  · exact silent n gt joke yields

theorem answered_iff (w : World) : (Answered w (reply.run w) ↔ ¬ Stuck w.responses) ∧
    (Stuck w.responses → (reply.run w).1 = .error .negativeCharacter) := by
  obtain ⟨n, result, v, search, run, events⟩ := run_reply w
  rw [run]
  cases search with
  | nobody passed =>
      have free : ¬ Stuck w.responses := fun ⟨i, hi, _, unread⟩ => (passed i hi).2 unread
      have mem : offline.getD (w.pick % offline.length) "" ∈ offline := by
        have bound : w.pick % offline.length < offline.length := Nat.mod_lt _ (by decide)
        rw [List.getD_eq_getElem?_getD, List.getElem?_eq_getElem bound, Option.getD_some]
        exact List.getElem_mem bound
      exact ⟨iff_of_true (answered_nobody passed events mem) free, fun stuck => absurd stuck free⟩
  | found passed nth yields =>
      have free := not_stuck_of_found passed yields
      exact ⟨iff_of_true (answered_found passed nth yields events) free,
        fun stuck => absurd stuck free⟩
  | stuck passed bound unread =>
      refine ⟨iff_of_false (fun h => ?_) fun free => free ⟨_, bound, passed.silent, unread⟩,
        fun _ => rfl⟩
      obtain ⟨text, eq⟩ := h.replies
      cases eq

end Sidekick.Joke
