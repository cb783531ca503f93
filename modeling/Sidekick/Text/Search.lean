/-!
# Searching a text

Every search answers with what follows the place it found.
-/

namespace Sidekick.Text

def afterStart? : List Char → List Char → Option (List Char)
  | [], s => some s
  | _ :: _, [] => none
  | k :: key, c :: s => if c = k then afterStart? key s else none

def after? (key : List Char) : List Char → Option (List Char)
  | [] => afterStart? key []
  | c :: s =>
    match afterStart? key (c :: s) with
    | some rest => some rest
    | none => after? key s

/-- The parts of a text between the occurrences of `mark`: one more than there are marks. -/
def splitAt (mark : Char) : List Char → List (List Char)
  | [] => [[]]
  | c :: s =>
    if c = mark then [] :: splitAt mark s
    else match splitAt mark s with
      | [] => [[c]]
      | part :: parts => (c :: part) :: parts

theorem length_splitAt (mark : Char) (s : List Char) :
    (splitAt mark s).length = s.count mark + 1 := by
  fun_induction splitAt mark s with
  | case1 => rfl
  | case2 c ih => simp [ih]
  | case3 c s h hs ih => simp [hs] at ih
  | case4 c s h part parts hs ih =>
    rw [hs, List.length_cons] at ih
    simp [List.count_cons_of_ne h, ih]

theorem afterStart?_eq_some_iff {key s rest : List Char} :
    afterStart? key s = some rest ↔ s = key ++ rest := by
  induction key generalizing s with
  | nil => simp [afterStart?]
  | cons k key ih =>
    cases s with
    | nil => simp [afterStart?]
    | cons c s =>
      by_cases h : c = k
      · simp [afterStart?, h, ih]
      · simp [afterStart?, h]

end Sidekick.Text
