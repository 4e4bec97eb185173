/-!
# Sets of characters

A character property is kept as the code points at which membership flips: a character is in the
set when an odd number of flips lie at or below it. The form is as short as the runs of the
property and needs no search structure.
-/

namespace EvidenceTree.Text

/-- A set of characters, given by the ascending code points at which membership flips. -/
structure CharSet where
  flips : List Nat

namespace CharSet

/-- A character is in the set when an odd number of flips lie at or below it. -/
def contains (set : CharSet) (c : Char) : Bool :=
  (set.flips.takeWhile (· ≤ c.toNat)).length % 2 == 1

/-- Nothing lies below the first flip. -/
theorem contains_eq_false_of_lt {first : Nat} {others : List Nat} {c : Char}
    (below : c.toNat < first) : (CharSet.mk (first :: others)).contains c = false := by
  simp [contains, Nat.not_le.2 below]

end CharSet

end EvidenceTree.Text
