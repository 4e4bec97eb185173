import EvidenceTree.Proofs.Resolution.Policy
import EvidenceTree.Proofs.Resolution.Simulation
import Mathlib.Data.Fin.Basic

/-!
# Children behind the others

The first child that the evidence meets is followed, so children that are added behind the others of
a node have a say only where none of these is met. A resolution that does not end at the node keeps
every step, through the node or around it; one that ends there may go on.

* `Tree.LengthenedAt`: a tree with further children behind those of one node.
* `Tree.LengthenedAt.descend_eq`: a way down that does not end at the node stays as it is.
* `Tree.LengthenedAt.path_prefix`: any other goes on at its end.
-/

namespace EvidenceTree

/-- The node with further children behind its own. -/
def Node.lengthened (more : List Nat) (node : Node) : Node :=
  { node with children := node.children ++ more }

/-- The way down under a node ends where the way down from its child does. -/
theorem Descent.getLast?_under {n : Nat} {i : Fin n} {below : Descent n} (some : below.path ≠ []) :
    (below.under i).path.getLast? = below.path.getLast? := by
  obtain ⟨first, rest, path_eq⟩ := List.exists_cons_of_ne_nil some
  unfold under
  rw [path_eq, List.getLast?_cons_cons]

namespace Tree

variable {t t' : Tree} {p : Nat} {more : List Nat} {options : Options} {source : Evidence.Source}
  {i c : Fin t.size} {key : Option String} {profile : Option ProfileId}

theorem path_descend_ne_nil : (descend t options source i key profile).path ≠ [] := by
  intro empty
  have starts : (descend t options source i key profile).path.head? = some i := head?_descend
  rw [empty] at starts
  cases starts

/-- The second tree is the first one with further children behind those of the node at an index. -/
def LengthenedAt (t : Tree) (p : Nat) (more : List Nat) (t' : Tree) : Prop :=
  t'.nodes = t.nodes.modify p (Node.lengthened more)

namespace LengthenedAt

theorem same_size (lengthened : t.LengthenedAt p more t') : t.size = t'.size := by
  unfold Tree.size
  rw [lengthened, Array.size_modify]

/-- The names of the nodes: each keeps its index. -/
abbrev name (lengthened : t.LengthenedAt p more t') : Fin t.size → Fin t'.size :=
  Fin.cast lengthened.same_size

theorem node_eq (lengthened : t.LengthenedAt p more t') (i : Fin t.size) :
    t'.node (lengthened.name i) =
      if p = i then (t.node i).lengthened more else t.node i := by
  have here : t'.nodes[i.1]? = some (if p = i then (t.node i).lengthened more else t.node i) := by
    rw [lengthened, Array.getElem?_modify, Array.getElem?_eq_getElem i.2]
    split <;> rfl
  exact (Array.getElem?_eq_some_iff.1 here).2

theorem key_eq (lengthened : t.LengthenedAt p more t') (i : Fin t.size) :
    (t'.node (lengthened.name i)).key = (t.node i).key := by
  rw [lengthened.node_eq]
  split <;> rfl

theorem profile_eq (lengthened : t.LengthenedAt p more t') (i : Fin t.size) :
    (t'.node (lengthened.name i)).profile = (t.node i).profile := by
  rw [lengthened.node_eq]
  split <;> rfl

theorem verdict_eq (lengthened : t.LengthenedAt p more t') (i : Fin t.size) :
    t'.verdict options source key (lengthened.name i) = t.verdict options source key i := by
  unfold Tree.verdict
  rw [lengthened.node_eq]
  split <;> rfl

/-! ## One step -/

/-- Other nodes keep their children. -/
theorem graph_of_ne (lengthened : t.LengthenedAt p more t') (other : p ≠ i) :
    t'.graph (lengthened.name i) = (t.graph i).map lengthened.name := by
  refine List.map_injective_iff.2 Fin.val_injective ?_
  rw [map_val_graph, lengthened.node_eq, if_neg other, ← map_val_graph, List.map_map]
  rfl

/-- Every node has its children first. -/
theorem graph_prefix (lengthened : t.LengthenedAt p more t') (i : Fin t.size) :
    (t.graph i).map lengthened.name <+: t'.graph (lengthened.name i) := by
  have values : ((t.graph i).map lengthened.name).map Fin.val <+:
      (t'.graph (lengthened.name i)).map Fin.val := by
    rw [map_val_graph, lengthened.node_eq, List.map_map]
    change (t.graph i).map Fin.val <+: _
    rw [map_val_graph]
    split
    · exact List.prefix_append _ _
    · exact List.prefix_refl _
  exact (List.prefix_map_iff_of_injective Fin.val_injective).1 values

/-- A child that was followed is followed still: what comes behind it is not looked at. -/
theorem chosen?_of_some (lengthened : t.LengthenedAt p more t')
    (chosen : t.chosen? options source key i = some c) :
    t'.chosen? options source key (lengthened.name i) = some (lengthened.name c) := by
  obtain ⟨later, split⟩ := lengthened.graph_prefix i
  have first : ((t.graph i).map lengthened.name).find?
      (fun child => t'.verdict options source key child = .matched) =
        some (lengthened.name c) := by
    rw [List.find?_map]
    simp only [Function.comp_def, lengthened.verdict_eq]
    exact congrArg (Option.map lengthened.name) chosen
  unfold chosen?
  rw [← split, List.find?_append, first]
  rfl

/-- Where no child is followed, none is followed still, unless children have been added. -/
theorem chosen?_of_ne (lengthened : t.LengthenedAt p more t') (other : p ≠ i) :
    t'.chosen? options source key (lengthened.name i) =
      (t.chosen? options source key i).map lengthened.name := by
  unfold chosen?
  rw [lengthened.graph_of_ne other, List.find?_map]
  simp only [Function.comp_def, lengthened.verdict_eq]

/-! ## The way down -/

/-- The way down takes the same steps as long as a child is followed. -/
theorem descend_of_chosen (lengthened : t.LengthenedAt p more t')
    (chosen : t.chosen? options source key i = some c) :
    descend t' options source (lengthened.name i) key profile =
      (descend t' options source (lengthened.name c) ((t.node c).key.or key)
        ((t.node c).profile.or profile)).under (lengthened.name i) := by
  rw [descend_of_some (lengthened.chosen?_of_some chosen), lengthened.key_eq,
    lengthened.profile_eq]

/-- A way down that ends at another node stays as it is, by induction along it: it is followed
through every node where a child is met, and ends where none of the same children is. -/
theorem descend_eq (lengthened : t.LengthenedAt p more t') (i : Fin t.size) (key : Option String)
    (profile : Option ProfileId)
    (elsewhere : ∀ last ∈ (descend t options source i key profile).path.getLast?, p ≠ last) :
    descend t' options source (lengthened.name i) key profile =
      (descend t options source i key profile).rename lengthened.name := by
  fun_induction descend t options source i key profile with
  | case1 i key profile child chosen ih =>
    rw [Descent.getLast?_under path_descend_ne_nil] at elsewhere
    rw [lengthened.descend_of_chosen chosen, ih elsewhere]
    rfl
  | case2 i key profile chosen =>
    have other : p ≠ i := elsewhere i rfl
    have chosen' : t'.chosen? options source key (lengthened.name i) = none := by
      rw [lengthened.chosen?_of_ne other, chosen]
      rfl
    have verdicts : (t'.graph (lengthened.name i)).map (t'.verdict options source key) =
        (t.graph i).map (t.verdict options source key) := by
      rw [lengthened.graph_of_ne other, List.map_map]
      exact List.map_congr_left fun c _ => lengthened.verdict_eq c
    rw [descend_of_none chosen', verdicts]
    rfl

/-- Any way down goes on at its end, if it goes on at all. -/
theorem path_prefix (lengthened : t.LengthenedAt p more t') (i : Fin t.size) (key : Option String)
    (profile : Option ProfileId) :
    (descend t options source i key profile).path.map lengthened.name <+:
      (descend t' options source (lengthened.name i) key profile).path := by
  fun_induction descend t options source i key profile with
  | case1 i key profile child chosen ih =>
    rw [lengthened.descend_of_chosen chosen]
    exact (List.prefix_cons_inj (lengthened.name i)).2 ih
  | case2 i key profile chosen =>
    obtain ⟨rest, path_eq⟩ := List.head?_eq_some_iff.1 (@head?_descend t' options source
      (lengthened.name i) key profile)
    rw [path_eq]
    exact ⟨rest, rfl⟩

/-! ## Resolutions -/

theorem descent_eq_descend (lengthened : t.LengthenedAt p more t') :
    t'.descent options source =
      descend t' options source (lengthened.name t.root) (t.node t.root).key
        (t.node t.root).profile := by
  have root : lengthened.name t.root = t'.root := rfl
  unfold descent
  rw [← lengthened.key_eq, ← lengthened.profile_eq, root]

theorem map_val_name (lengthened : t.LengthenedAt p more t') (path : List (Fin t.size)) :
    (path.map lengthened.name).map Fin.val = path.map Fin.val := by
  rw [List.map_map]
  rfl

/-- A resolution that does not end at the node stays as it is. -/
theorem resolve_eq (lengthened : t.LengthenedAt p more t')
    (elsewhere : (t.resolve options source).path.getLast? ≠ some p) :
    t'.resolve options source = t.resolve options source := by
  have apart : ∀ last ∈ (t.descent options source).path.getLast?, p ≠ last := by
    rintro last isLast rfl
    refine elsewhere ?_
    change ((t.descent options source).path.map Fin.val).getLast? = some last.1
    rw [List.getLast?_map, isLast]
    rfl
  have led : t'.descent options source =
      (t.descent options source).rename lengthened.name := by
    rw [lengthened.descent_eq_descend]
    exact lengthened.descend_eq _ _ _ apart
  unfold resolve
  rw [led]
  exact Resolution.ext rfl (lengthened.map_val_name _) rfl

/-- Any resolution goes on at its end, if its path changes at all. -/
theorem resolve_prefix (lengthened : t.LengthenedAt p more t') :
    (t.resolve options source).path <+: (t'.resolve options source).path := by
  have goesOn : (t.descent options source).path.map lengthened.name <+:
      (t'.descent options source).path := by
    rw [lengthened.descent_eq_descend]
    exact lengthened.path_prefix _ _ _
  have indices := goesOn.map Fin.val
  rw [lengthened.map_val_name] at indices
  exact indices

end LengthenedAt

end Tree

end EvidenceTree
