import EvidenceTree.Proofs.Resolution.Policy
import EvidenceTree.Proofs.Resolution.Simulation
import Mathlib.Data.Fin.Basic
import Mathlib.Data.List.Nodup

/-!
# Keys that are inherited

Where no node has two parents, the key that a node inherits is a matter of the node alone and not of
the way to it: that of its nearest ancestor with a key. Ancestors are those that the root reaches;
a node that it does not reach may name the root as its child, but no walk comes by it. With these
keys written into the nodes that lack one, inheriting has nothing left to do.

* `Tree.Inherits`: the key of the nearest ancestor that has one.
* `Tree.Carries`: what a walk knows of keys at a node, kept by each step down.
* `Tree.FilledBy.resolve_eq`: a tree with the keys written in is resolved like the tree without
  them, inheriting or not.
-/

namespace EvidenceTree

/-- A node with a key in place of its own, if there is one. -/
def Node.filled (key : Option String) (node : Node) : Node := { node with key := key.or node.key }

namespace Tree

section

variable (t : Tree)

/-- No index stands twice in the lists of children, all taken together. -/
def Unshared : Prop := (t.nodes.toList.flatMap Node.children).Nodup

/-- A node is the root or lies below it. -/
def Reaches (i : Fin t.size) : Prop := i = t.root ∨ t.graph.Descendant i t.root

/-- The nearest ancestor of a node that has a key has this one, if only those count as ancestors
that are `among` some nodes. -/
inductive Inherits (among : Fin t.size → Prop) : Fin t.size → String → Prop
  | parent {c p : Fin t.size} {key : String} : t.graph.Child c p → among p →
      t.keyAt p = some key → Inherits among c key
  | above {c p : Fin t.size} {key : String} : t.graph.Child c p → among p → t.keyAt p = none →
      Inherits among p key → Inherits among c key

/-- The keys that are written into the nodes below the root that have none: those of their nearest
ancestors with a key. -/
def Fills (among : Fin t.size → Prop) (keys : Nat → Option String) : Prop :=
  ∀ (i : Fin t.size) (key : String), keys i = some key ↔
    t.keyAt i = none ∧ t.graph.Descendant i t.root ∧ t.Inherits among i key

/-- The second tree is the first one with keys written into its nodes. -/
def FilledBy (keys : Nat → Option String) (t' : Tree) : Prop :=
  t'.nodes = t.nodes.mapIdx fun i node => node.filled (keys i)

/-- The key that a walk carries at a node: its own, or else the one that it inherits. -/
structure Carries (i : Fin t.size) (key : Option String) : Prop where
  reached : t.Reaches i
  key_iff : ∀ name, key = some name ↔
    t.keyAt i = some name ∨ t.keyAt i = none ∧ t.Inherits t.Reaches i name

end

variable {t t' : Tree} {among : Fin t.size → Prop} {c p p' : Fin t.size} {name name' : String}
  {key : Option String} {keys : Nat → Option String}

/-! ## The nearest ancestor with a key -/

/-- A node that is no child twice has one parent. -/
theorem Unshared.parent_unique (unshared : t.Unshared) (isChild : t.graph.Child c p)
    (isChild' : t.graph.Child c p') : p = p' := by
  have apart := (List.nodup_flatMap.1 unshared).2
  have declared {p : Fin t.size} (isChild : t.graph.Child c p) : c.1 ∈ (t.node p).children :=
    t.map_val_graph p ▸ List.mem_map_of_mem isChild
  have never {p p' : Fin t.size} (isChild : t.graph.Child c p) (isChild' : t.graph.Child c p') :
      ¬ p < p' := fun before =>
    List.pairwise_iff_getElem.1 apart p p' p.2 p'.2 before (declared isChild) (declared isChild')
  exact Fin.le_antisymm (Fin.not_lt.1 (never isChild' isChild))
    (Fin.not_lt.1 (never isChild isChild'))

/-- Of the only parent a child inherits the key, or what the parent inherits. -/
theorem Unshared.inherits_iff (unshared : t.Unshared) (isChild : t.graph.Child c p)
    (counts : among p) :
    t.Inherits among c name ↔
      t.keyAt p = some name ∨ t.keyAt p = none ∧ t.Inherits among p name := by
  constructor
  · intro inherits
    cases inherits with
    | parent isChild' _ named => exact .inl (unshared.parent_unique isChild isChild' ▸ named)
    | above isChild' _ unnamed inherits =>
      cases unshared.parent_unique isChild isChild'
      exact .inr ⟨unnamed, inherits⟩
  · intro known
    rcases known with named | ⟨unnamed, inherits⟩
    · exact .parent isChild counts named
    · exact .above isChild counts unnamed inherits

theorem Unshared.inherits_unique (unshared : t.Unshared) (inherits : t.Inherits among c name)
    (inherits' : t.Inherits among c name') : name = name' := by
  induction inherits with
  | parent isChild counts named =>
    rcases (unshared.inherits_iff isChild counts).1 inherits' with named' | ⟨unnamed, -⟩
    · exact Option.some.inj (named.symm.trans named')
    · cases named.symm.trans unnamed
  | above isChild counts unnamed _ ih =>
    rcases (unshared.inherits_iff isChild counts).1 inherits' with named | ⟨-, inherits'⟩
    · cases unnamed.symm.trans named
    · exact ih inherits'

/-- A key that a node lacks and inherits is the one that is written into it. -/
theorem Unshared.some_eq_some_iff (unshared : t.Unshared) (unnamed : t.keyAt c = none)
    (below : t.graph.Descendant c t.root) (inherits : t.Inherits among c name) :
    some name = some name' ↔
      t.keyAt c = none ∧ t.graph.Descendant c t.root ∧ t.Inherits among c name' := by
  constructor
  · rintro ⟨⟩
    exact ⟨unnamed, below, inherits⟩
  · rintro ⟨-, -, inherits'⟩
    exact congrArg some (unshared.inherits_unique inherits inherits')

/-- There are such keys to be written in. -/
theorem Unshared.exists_fills (unshared : t.Unshared) : ∃ keys, t.Fills among keys := by
  have each (i : Fin t.size) : ∃ key : Option String, ∀ name, key = some name ↔
      t.keyAt i = none ∧ t.graph.Descendant i t.root ∧ t.Inherits among i name := by
    by_cases lacks : ∃ name, t.keyAt i = none ∧ t.graph.Descendant i t.root ∧
        t.Inherits among i name
    · obtain ⟨name, unnamed, below, inherits⟩ := lacks
      exact ⟨some name, fun _ => unshared.some_eq_some_iff unnamed below inherits⟩
    · exact ⟨none, fun name => ⟨nofun, fun found => absurd ⟨name, found⟩ lacks⟩⟩
  choose keyOf keyOf_iff using each
  refine ⟨fun i => if inside : i < t.size then keyOf ⟨i, inside⟩ else none, fun i name => ?_⟩
  dsimp only
  rw [dif_pos i.2]
  exact keyOf_iff i name

/-! ## Keys on the way down -/

theorem Reaches.child (reached : t.Reaches p) (isChild : t.graph.Child c p) :
    t.graph.Descendant c t.root := by
  rcases reached with rfl | below
  · exact .single isChild
  · exact .head isChild below

/-- The evidence leads to nodes that the root reaches. -/
theorem Leads.reaches {options : Options} {source : Evidence.Source}
    {above path : List (Fin t.size)} (leads : t.Leads options source above path)
    (first : ∀ i, path.head? = some i → t.Reaches i) : ∀ i ∈ path, t.Reaches i := by
  induction leads with
  | stop _ => exact fun i isLast => List.mem_singleton.1 isLast ▸ first _ rfl
  | @step above below i child met rest ih =>
    obtain ⟨before, after, split, -, -⟩ := met
    have isChild : t.graph.Child child i := by simp [Graph.Child, split]
    refine List.forall_mem_cons.2 ⟨first i rfl, ih fun next isNext => ?_⟩
    cases isNext
    exact .inr ((first i rfl).child isChild)

/-- A node that the root reaches does not have it as a child. -/
theorem Reaches.not_child_root (reached : t.Reaches p) : ¬ t.graph.Child t.root p :=
  fun isChild => t.acyclic.not_descendant t.root (reached.child isChild)

/-- The root has no ancestor that it reaches. -/
theorem not_inherits_root : ¬ t.Inherits t.Reaches t.root name := by
  intro inherits
  cases inherits with
  | parent isChild reached _ => exact reached.not_child_root isChild
  | above isChild reached _ _ => exact reached.not_child_root isChild

theorem carries_root : t.Carries t.root (t.keyAt t.root) where
  reached := .inl rfl
  key_iff _ := ⟨.inl, fun known => known.resolve_right fun above => not_inherits_root above.2⟩

namespace Carries

theorem inherits_iff (carries : t.Carries p key) (unshared : t.Unshared)
    (isChild : t.graph.Child c p) : t.Inherits t.Reaches c name ↔ key = some name :=
  (unshared.inherits_iff isChild carries.reached).trans (carries.key_iff name).symm

/-- One step down, the key of the child comes before what is carried so far. -/
theorem down (carries : t.Carries p key) (unshared : t.Unshared) (isChild : t.graph.Child c p) :
    t.Carries c ((t.keyAt c).or key) where
  reached := .inr (carries.reached.child isChild)
  key_iff name := by
    rw [carries.inherits_iff unshared isChild]
    cases t.keyAt c <;> simp

/-- What is written into a child is what it would inherit. -/
theorem or_filled (carries : t.Carries p key) (unshared : t.Unshared)
    (fills : t.Fills t.Reaches keys) (isChild : t.graph.Child c p) :
    (keys c).or (t.keyAt c) = (t.keyAt c).or key := by
  have below := carries.reached.child isChild
  have filled_iff (name : String) : keys c = some name ↔ t.keyAt c = none ∧ key = some name := by
    rw [fills, carries.inherits_iff unshared isChild]
    exact and_congr_right' (and_iff_right below)
  cases named : t.keyAt c with
  | some own =>
    have none : keys c = none := by
      cases filled : keys c with
      | none => rfl
      | some name => cases named.symm.trans ((filled_iff name).1 filled).1
    rw [none]
    rfl
  | none =>
    rw [Option.or_none, Option.none_or]
    exact Option.ext fun name => (filled_iff name).trans (and_iff_right named)

end Carries

/-! ## Keys that are written in -/

namespace FilledBy

theorem same_size (filled : t.FilledBy keys t') : t.size = t'.size := by
  unfold Tree.size
  rw [filled, Array.size_mapIdx]

theorem node_eq (filled : t.FilledBy keys t') (i : Fin t.size) :
    t'.node (i.cast filled.same_size) = (t.node i).filled (keys i) := by
  have here : t'.nodes[i.1]? = some ((t.node i).filled (keys i)) := by
    rw [filled, Array.getElem?_mapIdx, Array.getElem?_eq_getElem i.2]
    rfl
  exact (Array.getElem?_eq_some_iff.1 here).2

theorem keyAt_eq (filled : t.FilledBy keys t') (i : Fin t.size) :
    t'.keyAt (i.cast filled.same_size) = (keys i).or (t.keyAt i) := by
  unfold keyAt
  rw [filled.node_eq]
  rfl

theorem children_eq (filled : t.FilledBy keys t') (i : Fin t.size) :
    t'.graph (i.cast filled.same_size) = (t.graph i).map (Fin.cast filled.same_size) := by
  refine List.map_injective_iff.2 Fin.val_injective ?_
  rw [map_val_graph, filled.node_eq, List.map_map]
  exact (t.map_val_graph i).symm

/-- The nodes hear under the keys that are written in what they hear under those they inherit. -/
theorem simulates (filled : t.FilledBy keys t') (unshared : t.Unshared)
    (fills : t.Fills t.Reaches keys) (source : Evidence.Source) (caseSensitive : Bool)
    (policy : KeyPolicy) :
    t.Simulates t' ⟨caseSensitive, .inherit⟩ ⟨caseSensitive, policy⟩ source source
      (Fin.cast filled.same_size) fun i key key' => key' = key ∧ t.Carries i key where
  children := filled.children_eq
  profile i := by
    rw [filled.node_eq]
    rfl
  verdict := by
    rintro p _ key ⟨rfl, carries⟩ c isChild
    have effective : ((t.node c).filled (keys c)).effectiveKey policy key =
        (t.node c).effectiveKey .inherit key := by
      change ((keys c).or (t.keyAt c)).or _ = (t.keyAt c).or key
      rw [carries.or_filled unshared fills isChild]
      cases policy <;> cases t.keyAt c <;> cases key <;> rfl
    unfold Tree.verdict Node.verdict
    rw [filled.node_eq, effective]
    rfl
  next := by
    rintro p _ key ⟨rfl, carries⟩ c isChild
    refine ⟨?_, carries.down unshared isChild⟩
    change (t'.keyAt (c.cast filled.same_size)).or key = (t.keyAt c).or key
    rw [filled.keyAt_eq, carries.or_filled unshared fills isChild]
    cases t.keyAt c <;> cases key <;> rfl

theorem keyAt_root (filled : t.FilledBy keys t') (fills : t.Fills t.Reaches keys) :
    t'.keyAt t'.root = t.keyAt t.root := by
  have nothing : keys t.root = none := by
    cases written : keys t.root with
    | none => rfl
    | some name => exact absurd ((fills t.root name).1 written).2.2 not_inherits_root
  have kept := filled.keyAt_eq t.root
  rw [nothing, Option.none_or] at kept
  exact kept

/-- With the keys written in, evidence is led where it is led by inheriting them. -/
theorem resolve_eq (filled : t.FilledBy keys t') (unshared : t.Unshared)
    (fills : t.Fills t.Reaches keys) (source : Evidence.Source) (caseSensitive : Bool)
    (policy : KeyPolicy) :
    t'.resolve ⟨caseSensitive, policy⟩ source = t.resolve ⟨caseSensitive, .inherit⟩ source := by
  have led := (filled.simulates unshared fills source caseSensitive policy).descent_eq rfl
    ⟨filled.keyAt_root fills, carries_root⟩
  unfold resolve
  rw [led]
  exact Resolution.ext rfl (List.map_map ..) rfl

end FilledBy

end Tree

end EvidenceTree
