import EvidenceTree.Proofs.Tree.Queries

/-!
# How far a resolution goes

A resolution follows one way down from the root, so all that it says is within what the tree reports
of itself: the nodes on its path, their number, the profile and, where there is nothing to follow,
the leaf that it ends at.

* `Tree.Within`: what a resolution shares with the queries of a tree.
* `Tree.resolve_within`: every resolution is within the tree that it comes from.
-/

namespace EvidenceTree.Tree

variable {t : Tree} {options : Options} {source : Evidence.Source} {path : List (Fin t.size)}

/-- The node at an index names another index as a child. -/
def NamesChild (t : Tree) (parent child : Nat) : Prop :=
  ∃ node, t.node? parent = some node ∧ child ∈ node.children

/-- A resolution is within what the tree reports of itself. -/
structure Within (t : Tree) (r : Resolution) : Prop where
  chain : r.path.IsChain t.NamesChild
  nodup : r.path.Nodup
  reached : ∀ i ∈ r.path, i ∈ t.preorder.map Fin.val
  nonempty : 1 ≤ r.path.length
  length_le : r.path.length ≤ t.depth
  profile : ∀ id, r.profile = some id → id ∈ t.profiles
  leaf : r.reason = some .noProfileOnPath →
    ∃ last, r.path.getLast? = some last ∧ last ∈ t.leaves.map Fin.val

theorem namesChild_of_child {parent child : Fin t.size} (isChild : t.graph.Child child parent) :
    t.NamesChild parent child := by
  refine ⟨t.node parent, Array.getElem?_eq_getElem parent.2, ?_⟩
  rw [← map_val_graph]
  exact List.mem_map_of_mem isChild

/-- A profile that is found is one that a node of the path carries. -/
theorem IsDeepest.exists_mem {id : ProfileId}
    (deepest : IsDeepest t.profileAt path (some id)) : ∃ i ∈ path, t.profileAt i = some id := by
  obtain ⟨above, i, below, split, carried, -⟩ := (deepest id).1 rfl
  refine ⟨i, ?_, carried⟩
  rw [split]
  simp

/-- Every resolution is within the tree that it comes from. -/
theorem resolve_within (t : Tree) (options : Options) (source : Evidence.Source) :
    t.Within (t.resolve options source) := by
  have described := t.describes_descent options source
  have policy : t.Policy options source (t.descent options source).path
      (t.resolve options source) :=
    policy_resolve
  have reaches := described.leads.reaches fun i isFirst => by
    cases head?_descent.symm.trans isFirst
    exact .inl rfl
  obtain ⟨below, path_eq⟩ := List.head?_eq_some_iff.1 policy.start
  have length_le : (t.descent options source).path.length ≤ t.depth := by
    have chain := described.leads.isChain
    rw [path_eq] at chain ⊢
    exact t.isHeight_depth.bound below chain
  refine
    { chain := ?_
      nodup := described.leads.nodup.map Fin.val_injective
      reached := ?_
      nonempty := ?_
      length_le := ?_
      profile := ?_
      leaf := ?_ }
  · rw [policy.indices, List.isChain_map]
    exact described.leads.isChain.imp fun _ _ => namesChild_of_child
  · rw [policy.indices]
    intro i onPath
    obtain ⟨node, isNode, rfl⟩ := List.mem_map.1 onPath
    exact List.mem_map_of_mem (mem_preorder_iff.2 (reaches node isNode))
  · rw [policy.indices, path_eq]
    simp
  · rw [policy.indices, List.length_map]
    exact length_le
  · intro id found
    have deepest := policy.profile
    rw [found] at deepest
    obtain ⟨i, onPath, carried⟩ := IsDeepest.exists_mem deepest
    exact mem_profiles_iff.2 ⟨i, reaches i onPath, carried⟩
  · intro noProfile
    have isNone := policy.reason_isSome.1 (by rw [noProfile]; rfl)
    have isLast := List.getLast?_eq_some_getLast described.leads.path_ne_nil
    have isLeaf := (policy.noProfileOnPath isNone _ isLast).1 noProfile
    refine ⟨_, ?_, List.mem_map_of_mem (mem_leaves_iff.2 ⟨reaches _ ?_, isLeaf⟩)⟩
    · rw [policy.indices, List.getLast?_map, isLast]
      rfl
    · exact List.mem_of_getLast? isLast

end EvidenceTree.Tree
