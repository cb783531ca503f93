/-!
# Classes of characters as ranges of code points
-/

namespace Sidekick.Text

/-- A class of characters: closed ranges of code points, ascending. -/
abbrev Ranges := List (Nat × Nat)

namespace Ranges

/-- The first point of the range that holds `n`. The search ends at the first range above `n`. -/
def start? : Ranges → Nat → Option Nat
  | [], _ => none
  | (first, last) :: rest, n =>
    if n < first then none else if n ≤ last then some first else start? rest n

def has (r : Ranges) (n : Nat) : Bool := (r.start? n).isSome

theorem start?_eq_some {r : Ranges} {n first : Nat} (h : r.start? n = some first) :
    ∃ last, (first, last) ∈ r ∧ first ≤ n ∧ n ≤ last := by
  fun_induction start? r n with
  | case1 => simp at h
  | case2 => simp at h
  | case3 a b rest n hlt hle =>
    obtain rfl := Option.some.inj h
    exact ⟨b, List.mem_cons_self, by omega, hle⟩
  | case4 a b rest n hlt hle ih =>
    obtain ⟨last, hm, hb⟩ := ih h
    exact ⟨last, List.mem_cons_of_mem _ hm, hb⟩

end Ranges

end Sidekick.Text
