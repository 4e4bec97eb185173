import EvidenceTree.Proofs.Graph.Embeddings
import EvidenceTree.Proofs.Resolution.Simulation
import EvidenceTree.Proofs.Tree.Outlines

/-!
# Trees under other names

A tree may stand inside another one, its root at the root, each node under a name of its own that
asks the same, under the same key, and gives the same profile. Whatever is said of the tree from its
root on is then said of the other one as well: the names are all that differs.

* `Tree.Embeds`: the names under which a tree stands in another one.
* `Tree.Embeds.preorder_eq`, `Tree.Embeds.leaves_eq`: the root reaches the same nodes in the same
  order.
* `Tree.Embeds.descent_eq`: evidence is led the same way.
* `Tree.Embeds.outline_eq`: the outlines have the same entries.
-/

namespace EvidenceTree

/-! ## Entries under other names -/

namespace Entry

variable {n m : Nat} {g : Graph n} {h : Graph m} {name : Fin n → Fin m}

mutual

/-- An entry with other names for its nodes. -/
def renamed (name : Fin n → Fin m) : Entry n → Entry m
  | own i below => own (name i) (renamedBelow name below)
  | shared i => shared (name i)
  | omitted children => omitted children

/-- Entries of one level with other names for their nodes. -/
def renamedBelow (name : Fin n → Fin m) : List (Entry n) → List (Entry m)
  | [] => []
  | entry :: rest => renamed name entry :: renamedBelow name rest

end

/-- Two drawings have the same entries and show the same nodes afterwards. -/
def SameDrawn (name : Fin n → Fin m) (drawn : Entry n × Vector Bool n)
    (drawn' : Entry m × Vector Bool m) : Prop :=
  drawn'.1 = renamed name drawn.1 ∧ Graph.SameMarks name drawn.2 drawn'.2

theorem renamedBelow_ofChildren {enter : Fin n → Vector Bool n → Entry n × Vector Bool n}
    {enter' : Fin m → Vector Bool m → Entry m × Vector Bool m}
    (injective : Function.Injective name)
    (each : ∀ c shown shown', Graph.SameMarks name shown shown' →
      SameDrawn name (enter c shown) (enter' (name c) shown'))
    (children : List (Fin n)) {shown : Vector Bool n} {shown' : Vector Bool m}
    (same : Graph.SameMarks name shown shown') :
    (ofChildren enter' (children.map name) shown').1 =
        renamedBelow name (ofChildren enter children shown).1 ∧
      Graph.SameMarks name (ofChildren enter children shown).2
        (ofChildren enter' (children.map name) shown').2 := by
  induction children generalizing shown shown' with
  | nil => exact ⟨rfl, same⟩
  | cons c others ih =>
    rw [List.map_cons]
    by_cases known : IsShown shown c
    · have known' : IsShown shown' (name c) := (same c).trans known
      obtain ⟨entries, marks⟩ := ih same
      rw [ofChildren_of_isShown known, ofChildren_of_isShown known']
      exact ⟨congrArg (shared (name c) :: ·) entries, marks⟩
    · have fresh' : ¬ IsShown shown' (name c) := fun known' => known ((same c).symm.trans known')
      obtain ⟨entry, marks⟩ := each c _ _ (same.set injective c true)
      obtain ⟨entries, marks⟩ := ih marks
      rw [ofChildren_of_not_isShown known, ofChildren_of_not_isShown fresh']
      exact ⟨congrArg₂ List.cons entry entries, marks⟩

/-- A node is drawn alike under its name. -/
theorem sameDrawn_ofNode (embeds : g.Embeds h name) (levels : Nat) (i : Fin n)
    {shown : Vector Bool n} {shown' : Vector Bool m} (same : Graph.SameMarks name shown shown') :
    SameDrawn name (ofNode g levels i shown) (ofNode h levels (name i) shown') := by
  induction levels generalizing i shown shown' with
  | zero =>
    refine ⟨?_, same⟩
    unfold ofNode
    rw [embeds.children, List.isEmpty_map, List.length_map]
    cases (g i).isEmpty <;> rfl
  | succ levels ih =>
    have below := renamedBelow_ofChildren embeds.injective
      (fun c shown shown' same => ih c same) (g i) same
    unfold ofNode
    rw [embeds.children]
    exact ⟨congrArg (own (name i)) below.1, below.2⟩

end Entry

namespace Tree

variable {t t' : Tree} {name : Fin t.size → Fin t'.size} {options : Options}
  {source : Evidence.Source}

/-- The first tree stands in the second one, root at root, each node under a name of its own. -/
structure Embeds (t t' : Tree) (name : Fin t.size → Fin t'.size) : Prop where
  graph : t.graph.Embeds t'.graph name
  root : name t.root = t'.root
  accepts : ∀ i mode value,
    (t'.node (name i)).criterion.accepts mode value = (t.node i).criterion.accepts mode value
  key : ∀ i, (t'.node (name i)).key = (t.node i).key
  profile : ∀ i, (t'.node (name i)).profile = (t.node i).profile

namespace Embeds

theorem isLeaf_eq (embeds : t.Embeds t' name) (i : Fin t.size) :
    (t'.node (name i)).isLeaf = (t.node i).isLeaf := by
  unfold Node.isLeaf
  rw [← map_val_graph, ← map_val_graph, embeds.graph.children]
  simp only [List.isEmpty_map]

/-! ## What the root reaches -/

theorem preorder_eq (embeds : t.Embeds t' name) : t'.preorder = t.preorder.map name := by
  unfold preorder
  rw [← embeds.root, embeds.graph.preorder_eq]

theorem reachable_eq (embeds : t.Embeds t' name) : t'.reachable = t.reachable := by
  unfold reachable
  rw [embeds.preorder_eq, List.length_map]

theorem leaves_eq (embeds : t.Embeds t' name) : t'.leaves = t.leaves.map name := by
  unfold leaves
  rw [embeds.preorder_eq, List.filter_map]
  exact congrArg (List.map name) (List.filter_congr fun i _ => embeds.isLeaf_eq i)

theorem profiles_eq (embeds : t.Embeds t' name) : t'.profiles = t.profiles := by
  unfold profiles
  rw [embeds.preorder_eq, List.filterMap_map]
  simp only [Function.comp_def, embeds.profile]

theorem depth_eq (embeds : t.Embeds t' name) : t'.depth = t.depth := by
  unfold depth
  rw [← embeds.root, embeds.graph.height_eq]

/-! ## Resolutions -/

theorem verdict_eq (embeds : t.Embeds t' name) (key : Option String) (i : Fin t.size) :
    t'.verdict options source key (name i) = t.verdict options source key i := by
  unfold Tree.verdict Node.verdict Node.effectiveKey
  rw [embeds.key]
  simp only [embeds.accepts]

theorem simulates (embeds : t.Embeds t' name) :
    t.Simulates t' options options source source name fun _ key key' => key' = key where
  children := embeds.graph.children
  profile := embeds.profile
  verdict i key key' same c _ := by rw [same, embeds.verdict_eq]
  next i key key' same c _ := by rw [same, embeds.key]

/-- Evidence is led the same way. -/
theorem descent_eq (embeds : t.Embeds t' name) :
    t'.descent options source = (t.descent options source).rename name :=
  embeds.simulates.descent_eq embeds.root (by rw [← embeds.root, embeds.key])

theorem resolve_eq (embeds : t.Embeds t' name) :
    t'.resolve options source = ((t.descent options source).rename name).resolution := by
  unfold resolve
  rw [embeds.descent_eq]

/-! ## Outlines -/

/-- The outlines have the same entries. -/
theorem outline_eq (embeds : t.Embeds t' name) : t'.outline = t.outline.renamed name := by
  have unmarked : Graph.SameMarks name (Vector.replicate t.size false)
      (Vector.replicate t'.size false) := Graph.sameMarks_replicate false
  have drawn := Entry.sameDrawn_ofNode embeds.graph (outlineLevels - 1) t.root
    (unmarked.set embeds.graph.injective t.root true)
  rw [embeds.root] at drawn
  exact drawn.1

end Embeds

end Tree

end EvidenceTree
