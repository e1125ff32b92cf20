/-!
# Sets of code points

A set of characters given by a property of the character standard is stored as a list of closed
intervals of code points. The tables built on it are `Text.Blank`, `Text.Quoted` and
`Text.Lowercase`.
-/

set_option autoImplicit false

namespace ZoneStore.Text

/-- A set of code points: the union of closed intervals, each given by its first and last point. -/
abbrev Intervals := List (Nat × Nat)

/-- Whether the code point of `c` lies in one of the intervals. -/
def Intervals.contains (s : Intervals) (c : Char) : Bool :=
  s.any fun i => decide (i.1 ≤ c.toNat) && decide (c.toNat ≤ i.2)

/-- Membership is membership in one of the intervals. -/
theorem Intervals.contains_eq_true_iff {s : Intervals} {c : Char} :
    s.contains c = true ↔ ∃ i ∈ s, i.1 ≤ c.toNat ∧ c.toNat ≤ i.2 := by
  simp [Intervals.contains]

end ZoneStore.Text
