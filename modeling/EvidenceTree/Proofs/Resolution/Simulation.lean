import EvidenceTree.Resolution.Resolve
import Mathlib.Data.List.Find

/-!
# Two resolutions side by side

Two trees may be resolved by the same steps though they differ in their nodes, in what the nodes ask
under or in how the evidence is matched. It is enough that at each node the children of one tree
stand for those of the other, that each pair of children hears the same verdict, and that the keys
which both walks carry down stay such that this goes on.

* `Tree.Simulates`: what the two trees have to agree on, node by node.
* `Tree.Simulates.descend_eq`: the two ways down are then the same, node for node.
-/

namespace EvidenceTree

/-- The way down with other names for its nodes. -/
def Descent.rename {n m : Nat} (name : Fin n → Fin m) (found : Descent n) : Descent m :=
  ⟨found.path.map name, found.profile, found.stop⟩

namespace Tree

variable {t t' : Tree} {options options' : Options} {source source' : Evidence.Source}
  {name : Fin t.size → Fin t'.size} {Keys : Fin t.size → Option String → Option String → Prop}

theorem descend_of_some {i child : Fin t.size} {key : Option String} {profile : Option ProfileId}
    (chosen : t.chosen? options source key i = some child) :
    descend t options source i key profile =
      (descend t options source child ((t.node child).key.or key)
        ((t.node child).profile.or profile)).under i := by
  rw [descend]
  split
  · rename_i found
    cases chosen.symm.trans found
    rfl
  · rename_i found
    cases chosen.symm.trans found

theorem descend_of_none {i : Fin t.size} {key : Option String} {profile : Option ProfileId}
    (chosen : t.chosen? options source key i = none) :
    descend t options source i key profile =
      ⟨[i], profile, Stop.ofVerdicts ((t.graph i).map (t.verdict options source key))⟩ := by
  rw [descend]
  split
  · rename_i found
    cases chosen.symm.trans found
  · rfl

/-- The nodes of a tree stand for those of another one. `Keys` relates the keys that the two walks
carry at a node, their own one included. -/
structure Simulates (t t' : Tree) (options options' : Options) (source source' : Evidence.Source)
    (name : Fin t.size → Fin t'.size)
    (Keys : Fin t.size → Option String → Option String → Prop) : Prop where
  children : ∀ i, t'.graph (name i) = (t.graph i).map name
  profile : ∀ i, (t'.node (name i)).profile = (t.node i).profile
  verdict : ∀ i key key', Keys i key key' → ∀ c ∈ t.graph i,
    t'.verdict options' source' key' (name c) = t.verdict options source key c
  next : ∀ i key key', Keys i key key' → ∀ c ∈ t.graph i,
    Keys c ((t.node c).key.or key) ((t'.node (name c)).key.or key')

namespace Simulates

variable {i : Fin t.size} {key key' : Option String}

theorem verdicts_eq (simulates : t.Simulates t' options options' source source' name Keys)
    (keys : Keys i key key') :
    (t'.graph (name i)).map (t'.verdict options' source' key') =
      (t.graph i).map (t.verdict options source key) := by
  rw [simulates.children, List.map_map]
  exact List.map_congr_left fun c isChild => simulates.verdict i key key' keys c isChild

theorem chosen?_eq (simulates : t.Simulates t' options options' source source' name Keys)
    (keys : Keys i key key') :
    t'.chosen? options' source' key' (name i) =
      (t.chosen? options source key i).map name := by
  unfold chosen?
  rw [simulates.children, List.find?_map]
  refine congrArg (Option.map name) (List.find?_congr fun c isChild => ?_)
  exact congrArg (fun verdict => decide (verdict = Verdict.matched))
    (simulates.verdict i key key' keys c isChild)

/-- The two ways down are the same, node for node. -/
theorem descend_eq (simulates : t.Simulates t' options options' source source' name Keys)
    (keys : Keys i key key') (profile : Option ProfileId) :
    descend t' options' source' (name i) key' profile =
      (descend t options source i key profile).rename name := by
  fun_induction descend t options source i key profile generalizing key' with
  | case1 i key profile child chosen ih =>
    have chosen' : t'.chosen? options' source' key' (name i) = some (name child) := by
      rw [simulates.chosen?_eq keys, chosen, Option.map_some]
    have below := ih (simulates.next i key key' keys child (child_of_chosen? chosen))
    rw [descend_of_some chosen', simulates.profile, below]
    rfl
  | case2 i key profile chosen =>
    have chosen' : t'.chosen? options' source' key' (name i) = none := by
      rw [simulates.chosen?_eq keys, chosen, Option.map_none]
    rw [descend_of_none chosen', simulates.verdicts_eq keys]
    rfl

/-- Walks that start at the roots take the same way. -/
theorem descent_eq (simulates : t.Simulates t' options options' source source' name Keys)
    (root : name t.root = t'.root)
    (keys : Keys t.root (t.node t.root).key (t'.node t'.root).key) :
    t'.descent options' source' = (t.descent options source).rename name := by
  have sameProfile : (t'.node t'.root).profile = (t.node t.root).profile := by
    rw [← root, simulates.profile]
  unfold descent
  dsimp only
  rw [sameProfile, ← simulates.descend_eq keys, root]

end Simulates

end Tree

end EvidenceTree
