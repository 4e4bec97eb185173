import EvidenceTree.Graph.Basic

/-!
# Walking a graph

The nodes that a start reaches, each once, in the order in which a walk comes to them that goes down
before it goes on. The walk keeps a list of nodes to go to; a node it has been at already is passed
over.
-/

namespace EvidenceTree.Graph

variable {n : Nat}

/-- The nodes that a walk comes to from a list of nodes, those already seen left out. -/
def walk (g : Graph n) (seen : Vector Bool n) : List (Fin n) → List (Fin n)
  | [] => []
  | i :: later =>
    match new : seen[i] with
    | true => walk g seen later
    | false => i :: walk g (seen.set i true) (g i ++ later)
termination_by agenda => (seen.count false, agenda.length)
decreasing_by
  · exact Prod.Lex.right _ (by simp)
  · exact Prod.Lex.left _ _ (count_set_lt new (by decide))

/-- The nodes that `start` reaches, itself first, a node before those below it. -/
def preorder (g : Graph n) (start : Fin n) : List (Fin n) :=
  walk g (Vector.replicate n false) [start]

end EvidenceTree.Graph
