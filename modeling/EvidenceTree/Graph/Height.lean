import EvidenceTree.Graph.Basic

/-!
# Heights in an acyclic graph

The height of a node counts the nodes on a longest walk down from it. Heights that are known are
kept, so that a node is measured once however many parents it has.
-/

namespace EvidenceTree.Graph

variable {n : Nat}

/-- The heights that are known. -/
abbrev Heights (n : Nat) := Vector (Option Nat) n

/-- The height of a node, and the heights known afterwards. -/
def measure (g : Graph n) (acyclic : g.Acyclic) (i : Fin n) (known : Heights n) :
    Nat × Heights n :=
  match known[i] with
  | some height => (height, known)
  | none =>
    let below := (g i).attach.foldl
      (fun (highest, known) child =>
        let (height, known) := measure g acyclic child.1 known
        (max highest height, known))
      (0, known)
    (below.1 + 1, below.2.set i (some (below.1 + 1)))
termination_by acyclic.wrap i
decreasing_by exact child.2

/-- The number of nodes on a longest walk down from a node. -/
def height (g : Graph n) (acyclic : g.Acyclic) (i : Fin n) : Nat :=
  (measure g acyclic i (Vector.replicate n none)).1

end EvidenceTree.Graph
