import EvidenceTree.Proofs.Graph.PostOrder
import EvidenceTree.Proofs.Graph.Preorders
import EvidenceTree.Proofs.Resolution.Inheritance
import Mathlib.SetTheory.Cardinal.Finite

/-!
# What a tree reports of itself

The queries of a tree walk it each in its own way. What they report can be said without a walk: by
the nodes that the root reaches, and by the ways that lead down from it.

* `Tree.mem_preorder_iff`, `Tree.mem_leaves_iff`, `Tree.mem_profiles_iff`: the nodes, the leaves and
  the profiles that are reported are those that the root reaches.
* `Tree.reportsReached`: the nodes stand in the order of a recursive walk, each once, and the other
  reports follow this order or that of the profiles.
* `Tree.isHeight_depth`: the depth is the number of nodes on a longest way down from the root.
* `Tree.depth_longest`: the same, however the depth is measured.
-/

namespace EvidenceTree

/-! ## Repetitions -/

section Repetitions

variable {α : Type} [BEq α] [LawfulBEq α] {a b : α} {l kept : List α}

theorem mem_eraseRepsBy_loop :
    a ∈ List.eraseRepsBy.loop (· == ·) b l kept ↔ a = b ∨ a ∈ l ∨ a ∈ kept := by
  induction l generalizing b kept with
  | nil => simp [List.eraseRepsBy.loop, or_comm]
  | cons c l ih =>
    unfold List.eraseRepsBy.loop
    split
    · rename_i same
      rw [ih, eq_of_beq same, List.mem_cons]
      tauto
    · rw [ih, List.mem_cons, List.mem_cons]
      tauto

/-- Without its repetitions a list has the same members. -/
theorem mem_eraseReps_iff : a ∈ l.eraseReps ↔ a ∈ l := by
  cases l with
  | nil => rfl
  | cons b l =>
    refine mem_eraseRepsBy_loop.trans ?_
    simp

theorem pairwise_eraseRepsBy_loop {le lt : α → α → Prop}
    (strict : ∀ {a b}, le a b → a ≠ b → lt a b) (trans : ∀ {a b c}, lt a b → lt b c → lt a c)
    (rising : (kept.reverse ++ [b]).Pairwise lt) (sorted : (b :: l).Pairwise le) :
    (List.eraseRepsBy.loop (· == ·) b l kept).Pairwise lt := by
  induction l generalizing b kept with
  | nil =>
    unfold List.eraseRepsBy.loop
    rw [List.reverse_cons]
    exact rising
  | cons c l ih =>
    obtain ⟨least, sortedRest⟩ := List.pairwise_cons.1 sorted
    unfold List.eraseRepsBy.loop
    split
    · rename_i same
      rw [eq_of_beq same] at rising ⊢
      exact ih rising sortedRest
    · rename_i differ
      have above : lt b c :=
        strict (least c List.mem_cons_self) fun same => by simp [same] at differ
      apply ih _ sortedRest
      rw [List.reverse_cons]
      refine List.pairwise_append.2
        ⟨rising, List.pairwise_singleton _ _, fun k isKept d isLast => ?_⟩
      rw [List.mem_singleton.1 isLast]
      rcases List.mem_append.1 isKept with earlier | isHere
      · exact trans ((List.pairwise_append.1 rising).2.2 k earlier b List.mem_cons_self) above
      · rw [List.mem_singleton.1 isHere]
        exact above

/-- Without its repetitions a sorted list ascends. -/
theorem pairwise_eraseReps {le lt : α → α → Prop}
    (strict : ∀ {a b}, le a b → a ≠ b → lt a b) (trans : ∀ {a b c}, lt a b → lt b c → lt a c)
    (sorted : l.Pairwise le) : l.eraseReps.Pairwise lt := by
  cases l with
  | nil => exact .nil
  | cons b l => exact pairwise_eraseRepsBy_loop strict trans (List.pairwise_singleton _ _) sorted

end Repetitions

namespace Tree

variable {t : Tree} {i : Fin t.size} {id : ProfileId}

/-! ## What the root reaches -/

theorem mem_preorder_iff : i ∈ t.preorder ↔ t.Reaches i :=
  Graph.mem_preorder_iff

theorem isLeaf_iff : (t.node i).isLeaf = true ↔ t.graph i = [] := by
  unfold Node.isLeaf
  rw [← map_val_graph, List.isEmpty_iff, List.map_eq_nil_iff]

theorem mem_leaves_iff : i ∈ t.leaves ↔ t.Reaches i ∧ t.graph i = [] := by
  unfold leaves
  rw [List.mem_filter, mem_preorder_iff, isLeaf_iff]

theorem mem_profiles_iff : id ∈ t.profiles ↔ ∃ i, t.Reaches i ∧ t.profileAt i = some id := by
  unfold profiles
  rw [mem_eraseReps_iff, List.mem_mergeSort, List.mem_filterMap]
  simp only [mem_preorder_iff]
  rfl

/-- The number of nodes that a tree reports is that of the nodes which the root reaches. -/
theorem reachable_eq_card (t : Tree) : t.reachable = Nat.card {i // t.Reaches i} := by
  have reached : ∀ i, i ∈ t.preorder.toFinset ↔ t.Reaches i := fun i => by
    rw [List.mem_toFinset, mem_preorder_iff]
  have nodup : t.preorder.Nodup := Graph.nodup_preorder _ _
  rw [Nat.subtype_card t.preorder.toFinset reached, List.toFinset_card_of_nodup nodup]
  rfl

theorem pairwise_profiles (t : Tree) : t.profiles.Pairwise (· < ·) := by
  have sorted (ids : List ProfileId) : (ids.mergeSort (· ≤ ·)).Pairwise (· ≤ ·) := by
    refine (List.pairwise_mergeSort (fun a b c le le' => ?_) (fun a b => ?_) ids).imp
      of_decide_eq_true
    · exact decide_eq_true (UInt32.le_trans (of_decide_eq_true le) (of_decide_eq_true le'))
    · simpa using UInt32.le_total a b
  exact pairwise_eraseReps UInt32.lt_of_le_of_ne UInt32.lt_trans (sorted _)

/-- What a tree reports of the nodes that the root reaches: their list, in the order of a recursive
walk and as an iterator hands it out, their number, and the leaves and profiles among them. -/
structure ReportsReached (t : Tree) : Prop where
  tour : t.preorder = (t.graph.tour t.acyclic t.root (Vector.replicate t.size false)).1
  yields : t.graph.Yields (Vector.replicate t.size false) [t.root] t.preorder
  first : t.preorder.head? = some t.root
  nodup : t.preorder.Nodup
  mem_preorder : ∀ i, i ∈ t.preorder ↔ t.Reaches i
  reachable : t.reachable = Nat.card {i // t.Reaches i}
  leaves : t.leaves.Sublist t.preorder
  mem_leaves : ∀ i, i ∈ t.leaves ↔ t.Reaches i ∧ t.graph i = []
  profiles : t.profiles.Pairwise (· < ·)
  mem_profiles : ∀ id, id ∈ t.profiles ↔ ∃ i, t.Reaches i ∧ t.profileAt i = some id

/-- Every tree reports the nodes that the root reaches, each once, in the order of a recursive
walk. -/
theorem reportsReached (t : Tree) : t.ReportsReached where
  tour := Graph.preorder_eq_tour t.acyclic t.root
  yields := Graph.yields_preorder t.graph t.root
  first := Graph.head?_preorder t.graph t.root
  nodup := Graph.nodup_preorder t.graph t.root
  mem_preorder _ := mem_preorder_iff
  reachable := t.reachable_eq_card
  leaves := List.filter_sublist
  mem_leaves _ := mem_leaves_iff
  profiles := t.pairwise_profiles
  mem_profiles _ := mem_profiles_iff

/-! ## Depth -/

/-- The depth of a tree is the number of nodes on a longest way down from its root. -/
theorem isHeight_depth (t : Tree) : t.graph.IsHeight t.root t.depth :=
  t.graph.isHeight_height t.acyclic t.root

/-- The depth of a tree is the number of nodes on a longest way down from its root, and a
measurement with an agenda ends and finds it. -/
theorem depth_longest (t : Tree) :
    t.graph.IsHeight t.root t.depth ∧
      ∃ known, t.graph.Runs (.start t.root) ⟨known, []⟩ ∧ known.get t.root = some t.depth :=
  ⟨t.isHeight_depth, Graph.exists_runs_survey t.graph t.acyclic t.root⟩

end Tree

end EvidenceTree
