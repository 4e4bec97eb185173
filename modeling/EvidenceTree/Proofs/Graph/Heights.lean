import EvidenceTree.Proofs.Graph.Embeddings
import EvidenceTree.Proofs.Graph.Cycles

/-!
# What heights count

A measurement keeps the heights that it has found, so that what it finds for a node hangs on what it
is told of others. If all that it is told is true, so is all that it tells: the height of a node is
the number of nodes on a longest way down from it.

* `Graph.IsHeight`: the number of nodes on a longest way down.
* `Graph.isHeight_measure`: a measurement keeps true heights.
* `Graph.isHeight_height`: a height is that number.
-/

namespace EvidenceTree.Graph

variable {n : Nat} {g : Graph n} {acyclic : g.Acyclic} {i c : Fin n} {height : Nat}
  {known : Heights n} {path below : List (Fin n)}

/-- The nodes lead down: each is a child of the one before it. -/
def LeadsDown (g : Graph n) (path : List (Fin n)) : Prop :=
  path.IsChain (Function.swap g.Child)

/-- No longer way leads down from a node than one of so many nodes. -/
structure IsHeight (g : Graph n) (i : Fin n) (height : Nat) : Prop where
  reached : ∃ below, g.LeadsDown (i :: below) ∧ (i :: below).length = height
  bound : ∀ below, g.LeadsDown (i :: below) → (i :: below).length ≤ height

theorem leadsDown_cons_cons_iff :
    g.LeadsDown (i :: c :: below) ↔ g.Child c i ∧ g.LeadsDown (c :: below) :=
  List.isChain_cons_cons

/-- A node is one higher than the highest of its children, if it has any. -/
theorem IsHeight.of_children (bound : ∀ c ∈ g i, ∃ h ≤ height, g.IsHeight c h)
    (attained : height = 0 ∨ ∃ c ∈ g i, g.IsHeight c height) : g.IsHeight i (height + 1) where
  reached := by
    rcases attained with rfl | ⟨c, isChild, isHeight⟩
    · exact ⟨[], List.isChain_singleton i, rfl⟩
    · obtain ⟨below, leads, same⟩ := isHeight.reached
      refine ⟨c :: below, leadsDown_cons_cons_iff.2 ⟨isChild, leads⟩, ?_⟩
      rw [List.length_cons, same]
  bound := by
    intro below leads
    cases below with
    | nil => simp
    | cons c below =>
      obtain ⟨isChild, leads⟩ := leadsDown_cons_cons_iff.1 leads
      obtain ⟨h, atMost, isHeight⟩ := bound c isChild
      have := isHeight.bound below leads
      rw [List.length_cons]
      omega

/-! ## Measurements -/

/-- The heights that are known are heights. -/
def Truthful (g : Graph n) (known : Heights n) : Prop :=
  ∀ i height, known.get i = some height → g.IsHeight i height

theorem truthful_replicate : g.Truthful (Vector.replicate n none) := by
  intro i height isKnown
  change (Vector.replicate n none)[i] = some height at isKnown
  simp at isKnown

theorem Truthful.set (truthful : g.Truthful known) (isHeight : g.IsHeight i height) :
    g.Truthful (known.set i (some height) i.2) := by
  intro j other isKnown
  change (known.set i (some height))[j] = some other at isKnown
  rw [Fin.getElem_fin, Vector.getElem_set] at isKnown
  by_cases same : i = j
  · subst same
    rw [if_pos rfl] at isKnown
    cases isKnown
    exact isHeight
  · rw [if_neg (Fin.val_ne_of_ne same)] at isKnown
    exact truthful j other isKnown

/-- What is found of a node is its height, and only heights are known afterwards. -/
def Tells (g : Graph n) (i : Fin n) (found : Nat × Heights n) : Prop :=
  g.IsHeight i found.1 ∧ g.Truthful found.2

/-- What is found of some children one after the other, from a height on: the greatest height. -/
structure TellsAll (g : Graph n) (least : Nat) (children : List (Fin n))
    (found : Nat × Heights n) : Prop where
  truthful : g.Truthful found.2
  least_le : least ≤ found.1
  bound : ∀ c ∈ children, ∃ h ≤ found.1, g.IsHeight c h
  attained : found.1 = least ∨ ∃ c ∈ children, g.IsHeight c found.1

theorem tellsAll_foldl {children : List (Fin n)} (sofar : Nat × Heights n)
    (each : ∀ c ∈ children, ∀ known, g.Truthful known → g.Tells c (measure g acyclic c known))
    (truthful : g.Truthful sofar.2) :
    g.TellsAll sofar.1 children (children.foldl (measureNext g acyclic) sofar) := by
  induction children generalizing sofar with
  | nil => exact ⟨truthful, Nat.le_refl _, nofun, .inl rfl⟩
  | cons c children ih =>
    obtain ⟨isHeight, truthful'⟩ := each c List.mem_cons_self sofar.2 truthful
    have rest := ih (measureNext g acyclic sofar c)
      (fun other isLater => each other (List.mem_cons_of_mem _ isLater)) truthful'
    rw [List.foldl_cons]
    have least_le : max sofar.1 (measure g acyclic c sofar.2).1 ≤ _ := rest.least_le
    refine ⟨rest.truthful, by omega, ?_, ?_⟩
    · intro other isChild
      rcases List.mem_cons.1 isChild with rfl | isLater
      · exact ⟨_, Nat.le_trans (Nat.le_max_right _ _) least_le, isHeight⟩
      · exact rest.bound other isLater
    · rcases rest.attained with same | ⟨other, isLater, attained⟩
      · rcases Nat.le_total (measure g acyclic c sofar.2).1 sofar.1 with less | more
        · exact .inl (same.trans (Nat.max_eq_left less))
        · refine .inr ⟨c, List.mem_cons_self, ?_⟩
          rw [same, measureNext, Nat.max_eq_right more]
          exact isHeight
      · exact .inr ⟨other, List.mem_cons_of_mem _ isLater, attained⟩

/-- A measurement finds the height of a node and keeps true heights. -/
theorem isHeight_measure (truthful : g.Truthful known) :
    g.Tells i (measure g acyclic i known) := by
  induction i using acyclic.induction generalizing known with
  | _ i ih =>
    cases found : known.get i with
    | some height =>
      rw [measure_of_known found]
      exact ⟨truthful i height found, truthful⟩
    | none =>
      have below := tellsAll_foldl (0, known) (fun c isChild _ => ih c isChild) truthful
      have isHeight := IsHeight.of_children below.bound below.attained
      rw [measure_of_unknown found]
      exact ⟨isHeight, below.truthful.set isHeight⟩

/-- The height of a node is the number of nodes on a longest way down from it. -/
theorem isHeight_height (g : Graph n) (acyclic : g.Acyclic) (i : Fin n) :
    g.IsHeight i (g.height acyclic i) :=
  (isHeight_measure truthful_replicate).1

end EvidenceTree.Graph
