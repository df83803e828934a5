/-!
# Sets of code points

A set is kept as the ascending list of the points at which membership changes: first the first
member, then the first non-member after it, and so on. A point is a member if an odd number of
changes are at or below it.
-/

namespace GraphDecl.Unicode

structure CodePointSet where
  changes : List Nat

namespace CodePointSet

/-- Whether an odd number of the ascending changes are at or below `c`. -/
def oddUpTo (c : Nat) : List Nat → Bool
  | [] => false
  | p :: rest => if c < p then false else !oddUpTo c rest

def contains (s : CodePointSet) (c : Char) : Bool := oddUpTo c.toNat s.changes

theorem oddUpTo_of_lt {c p : Nat} (rest : List Nat) (h : c < p) :
    oddUpTo c (p :: rest) = false := by
  simp [oddUpTo, h]

/-- A range is a set of two changes. -/
theorem oddUpTo_range (c first last : Nat) :
    oddUpTo c [first, last + 1] = decide (first ≤ c ∧ c ≤ last) := by
  by_cases h1 : c < first
  · rw [oddUpTo_of_lt _ h1]
    exact (decide_eq_false fun h => by omega).symm
  · rw [oddUpTo, if_neg h1]
    by_cases h2 : c < last + 1
    · rw [oddUpTo_of_lt _ h2]
      exact (decide_eq_true ⟨by omega, by omega⟩).symm
    · rw [oddUpTo, if_neg h2]
      exact (decide_eq_false fun h => by omega).symm

end CodePointSet
end GraphDecl.Unicode
