import EvidenceTree.Graph.Height
import EvidenceTree.Graph.Walk
import Mathlib.Logic.Function.Basic

/-!
# Graphs under other names

A graph may stand inside another one under other names for its nodes, each child list in its order.
What a walk comes to from a node and how high the node is are then the same in both: neither looks
at a name for more than to tell two nodes apart.

* `Graph.Embeds`: the names, one for each node, under which a graph stands in another one.
* `Graph.Embeds.preorder_eq`: a walk comes to the same nodes in the same order.
* `Graph.Embeds.height_eq`: heights are the same.
-/

namespace EvidenceTree.Graph

variable {n m : Nat} {g : Graph n} {h : Graph m} {name : Fin n → Fin m}

/-- The first graph stands in the second one, each node under a name of its own. -/
structure Embeds (g : Graph n) (h : Graph m) (name : Fin n → Fin m) : Prop where
  injective : Function.Injective name
  children : ∀ i, h (name i) = (g i).map name

/-- The marks of nodes are those of their names. -/
def SameMarks {α : Type} (name : Fin n → Fin m) (marks : Vector α n) (marks' : Vector α m) : Prop :=
  ∀ i, marks'.get (name i) = marks.get i

section

variable {α : Type} {marks : Vector α n} {marks' : Vector α m}

theorem sameMarks_replicate (mark : α) :
    SameMarks name (Vector.replicate n mark) (Vector.replicate m mark) :=
  fun i => by
    change (Vector.replicate m mark)[name i] = (Vector.replicate n mark)[i]
    simp

theorem SameMarks.set (injective : Function.Injective name) (same : SameMarks name marks marks')
    (i : Fin n) (mark : α) :
    SameMarks name (marks.set i mark i.2) (marks'.set (name i) mark (name i).2) := by
  intro j
  change (marks'.set (name i) mark)[name j] = (marks.set i mark)[j]
  simp only [Fin.getElem_fin, Vector.getElem_set]
  by_cases here : i = j
  · subst here
    simp
  · have apart : name i ≠ name j := fun sameName => here (injective sameName)
    rw [if_neg (Fin.val_ne_of_ne here), if_neg (Fin.val_ne_of_ne apart)]
    exact same j

end

namespace Embeds

/-! ## Walks -/

theorem walk_eq (embeds : Embeds g h name) {seen : Vector Bool n} {seen' : Vector Bool m}
    (same : SameMarks name seen seen') (agenda : List (Fin n)) :
    walk h seen' (agenda.map name) = (walk g seen agenda).map name := by
  fun_induction walk g seen agenda generalizing seen' with
  | case1 seen => simp [walk]
  | case2 seen i later new ih =>
    rw [List.map_cons, walk]
    split
    · exact ih same
    · rename_i new'
      cases new'.symm.trans ((same i).trans new)
  | case3 seen i later new ih =>
    rw [List.map_cons, walk]
    split
    · rename_i new'
      cases new'.symm.trans ((same i).trans new)
    · rw [List.map_cons, ← ih (same.set embeds.injective i true), List.map_append,
        embeds.children]

/-- A walk comes to the same nodes in the same order. -/
theorem preorder_eq (embeds : Embeds g h name) (start : Fin n) :
    h.preorder (name start) = (g.preorder start).map name :=
  embeds.walk_eq (sameMarks_replicate false) [start]

end Embeds

/-! ## Heights -/

/-- Measures one child more: the greatest height so far, and the heights known. -/
def measureNext (g : Graph n) (acyclic : g.Acyclic) (sofar : Nat × Heights n) (child : Fin n) :
    Nat × Heights n :=
  (max sofar.1 (measure g acyclic child sofar.2).1, (measure g acyclic child sofar.2).2)

/-- A node that is not measured yet is one higher than the highest of its children. -/
theorem measure_of_unknown {acyclic : g.Acyclic} {i : Fin n} {known : Heights n}
    (unknown : known.get i = none) :
    measure g acyclic i known =
      (fun below : Nat × Heights n => (below.1 + 1, below.2.set i (some (below.1 + 1)) i.2))
        ((g i).foldl (measureNext g acyclic) (0, known)) := by
  have children : (g i).attach.foldl (fun sofar child => measureNext g acyclic sofar child.1)
      (0, known) = (g i).foldl (measureNext g acyclic) (0, known) := List.foldl_attach
  have here : known[i] = none := unknown
  rw [measure, here, ← children]
  rfl

theorem measure_of_known {acyclic : g.Acyclic} {i : Fin n} {known : Heights n} {height : Nat}
    (isKnown : known.get i = some height) : measure g acyclic i known = (height, known) := by
  have here : known[i] = some height := isKnown
  rw [measure, here]

namespace Embeds

variable {acyclic : g.Acyclic} {acyclic' : h.Acyclic}

/-- Two measurements find the same height and know the same heights afterwards. -/
def SameMeasure (name : Fin n → Fin m) (found : Nat × Heights n) (found' : Nat × Heights m) :
    Prop :=
  found'.1 = found.1 ∧ SameMarks name found.2 found'.2

theorem sameMeasure_foldl {children : List (Fin n)} {sofar : Nat × Heights n}
    {sofar' : Nat × Heights m}
    (each : ∀ child ∈ children, ∀ known known', SameMarks name known known' →
      SameMeasure name (measure g acyclic child known) (measure h acyclic' (name child) known'))
    (same : SameMeasure name sofar sofar') :
    SameMeasure name (children.foldl (measureNext g acyclic) sofar)
      ((children.map name).foldl (measureNext h acyclic') sofar') := by
  induction children generalizing sofar sofar' with
  | nil => exact same
  | cons child children ih =>
    have first := each child List.mem_cons_self sofar.2 sofar'.2 same.2
    refine ih (fun other isLater => each other (List.mem_cons_of_mem _ isLater)) ⟨?_, first.2⟩
    exact congrArg₂ max same.1 first.1

theorem sameMeasure_measure (embeds : Embeds g h name) (i : Fin n) {known : Heights n}
    {known' : Heights m} (same : SameMarks name known known') :
    SameMeasure name (measure g acyclic i known) (measure h acyclic' (name i) known') := by
  induction i using acyclic.induction generalizing known known' with
  | _ i ih =>
    cases found : known.get i with
    | some height =>
      rw [measure_of_known found, measure_of_known ((same i).trans found)]
      exact ⟨rfl, same⟩
    | none =>
      have below : SameMeasure name ((g i).foldl (measureNext g acyclic) (0, known))
          (((g i).map name).foldl (measureNext h acyclic') (0, known')) :=
        sameMeasure_foldl (fun child isChild _ _ => ih child isChild) ⟨rfl, same⟩
      rw [measure_of_unknown found, measure_of_unknown ((same i).trans found), embeds.children]
      refine ⟨congrArg (· + 1) below.1, ?_⟩
      dsimp only
      rw [below.1]
      exact below.2.set embeds.injective i _

/-- A node is as high under its name. -/
theorem height_eq (embeds : Embeds g h name) (i : Fin n) :
    h.height acyclic' (name i) = g.height acyclic i :=
  (embeds.sameMeasure_measure i (sameMarks_replicate none)).1

end Embeds

end EvidenceTree.Graph
