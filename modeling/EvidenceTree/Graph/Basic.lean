/-!
# Graphs by child lists

A graph on the nodes `0, …, n - 1` gives each node an ordered list of children, in which a node may
occur more than once. Acyclicity is stated as well-foundedness of the child relation, so that it is
also what recursion along children ends by.
-/

namespace EvidenceTree

/-- A graph on `n` nodes: the children of each node, in order. -/
abbrev Graph (n : Nat) := Fin n → List (Fin n)

namespace Graph

variable {n : Nat}

/-- `c` is a child of `p`. -/
def Child (g : Graph n) (c p : Fin n) : Prop := c ∈ g p

/-- No walk along children goes on for ever; in particular no node is its own descendant. -/
def Acyclic (g : Graph n) : Prop := WellFounded g.Child

/-- An edge of a graph, from a node to one of its children. -/
structure Edge (n : Nat) where
  parent : Fin n
  child : Fin n
  deriving DecidableEq

/-! ## Counting marks -/

section

variable {α : Type} [DecidableEq α] {marks : Vector α n} {i : Fin n} {old new : α}

/-- A mark that changes is one less of its kind. -/
theorem count_set_lt (here : marks.get i = old) (differ : new ≠ old) :
    (marks.set i new i.2).count old < marks.count old := by
  have here : marks[i.1] = old := here
  have present : 0 < marks.count old := Vector.count_pos_iff.2 (here ▸ Vector.getElem_mem i.2)
  rw [Vector.count_set, here, if_pos (beq_self_eq_true _),
    if_neg (fun same => differ (eq_of_beq same))]
  omega

/-- A change to another mark makes no more of a kind. -/
theorem count_set_le (marks : Vector α n) (i : Fin n) (differ : new ≠ old) :
    (marks.set i new i.2).count old ≤ marks.count old := by
  rw [Vector.count_set, if_neg (fun same => differ (eq_of_beq same))]
  exact Nat.sub_le _ _

end

end Graph

end EvidenceTree
