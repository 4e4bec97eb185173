import EvidenceTree.Proofs.Binary64.Rounding
import EvidenceTree.Proofs.Document.Reorderings
import EvidenceTree.Proofs.Document.Sequences
import Mathlib.Data.List.Forall2

/-!
# Equal trees

Trees are compared part by part and node by node, bounds as numbers. A bound is a finite number, so
it equals itself, and all that a comparison overlooks is the sign of a zero. So trees are equal
exactly where they are the same once no zero has a sign, and since no evidence tells one zero from
the other, equal trees answer alike.

* `Finite64.settled`, `Criterion.settled`, `Node.settled`: no zero has a sign.
* `Tree.same_iff`: equal trees are the same once they are settled.
* `Criterion.accepts_settled`: evidence meets a criterion whatever the signs of its zeros.
* `Tree.embeds_of_same`: a tree stands in an equal one, each node under its own index.
* `Tree.same_sound`: equality is an equivalence, trees of the same bytes are equal, and equal trees
  answer alike.
-/

namespace EvidenceTree

/-! ## Bounds -/

namespace Finite64

/-- The number without its sign if it is a zero. -/
def settled (x : Finite64) : Finite64 := { x with negative := x.negative && x.magnitude.units ≠ 0 }

@[simp]
theorem units_settled (x : Finite64) : x.settled.units = x.units := by
  unfold settled units
  by_cases isZero : x.magnitude.units = 0 <;> simp [isZero]

theorem negative_settled (x : Finite64) : x.settled.negative = decide (x.units < 0) := by
  unfold settled units
  cases x.negative <;> simp [Nat.pos_iff_ne_zero]

/-- Numbers are equal exactly where they are the same but for the sign of a zero. -/
theorem same_iff {x y : Finite64} : x.same y = true ↔ x.settled = y.settled := by
  unfold same
  rw [beq_iff_eq]
  constructor
  · intro units_eq
    have sign : x.settled.negative = y.settled.negative := by
      rw [negative_settled, negative_settled, units_eq]
    refine eq_of_units sign ?_
    rw [units_settled, units_settled, units_eq]
  · intro same
    rw [← x.units_settled, same, y.units_settled]

end Finite64

/-! ## Nodes -/

namespace Criterion

/-- The criterion with bounds that have no sign if they are zeros. -/
def settled : Criterion → Criterion
  | root => root
  | literal text => literal text
  | range low high => range low.settled high.settled

theorem same_iff {a b : Criterion} : a.same b = true ↔ a.settled = b.settled := by
  cases a <;> cases b <;> simp [same, settled, Finite64.same_iff]

/-- A value meets a criterion whatever the signs of its zeros. -/
theorem accepts_settled (criterion : Criterion) (mode : CaseMode) (value : Evidence.Value) :
    criterion.settled.accepts mode value = criterion.accepts mode value := by
  cases criterion with
  | root => rfl
  | literal text => rfl
  | range low high =>
    have between_eq : Binary64.between low.settled high.settled = Binary64.between low high := by
      funext x
      cases x <;> simp [Binary64.between]
    unfold settled accepts matchesNumber
    dsimp only
    rw [between_eq]

end Criterion

namespace Node

/-- The node with a criterion whose zeros have no sign. -/
def settled (node : Node) : Node := { node with criterion := node.criterion.settled }

theorem same_iff {a b : Node} : a.same b = true ↔ a.settled = b.settled := by
  simp [same, settled, Criterion.same_iff, and_assoc]

end Node

/-! ## Trees -/

namespace Tree

variable {t t' t'' : Tree}

/-- Trees are equal exactly where they are the same but for the signs of zeros. -/
theorem same_iff : t.same t' = true ↔ t.version = t'.version ∧ t.publishDate = t'.publishDate ∧
    t.nodes.map Node.settled = t'.nodes.map Node.settled := by
  have tables : t.size = t'.size ∧
      (∀ pair ∈ t.nodes.toList.zip t'.nodes.toList, pair.1.same pair.2 = true) ↔
        t.nodes.map Node.settled = t'.nodes.map Node.settled := by
    rw [← Array.toList_inj, Array.toList_map, Array.toList_map, ← List.forall₂_eq_eq_eq,
      List.forall₂_map_left_iff, List.forall₂_map_right_iff, List.forall₂_iff_zip]
    simp only [Node.same_iff, Prod.forall, Array.length_toList]
  unfold same
  rw [Bool.and_eq_true, Bool.and_eq_true, Bool.and_eq_true, beq_iff_eq, beq_iff_eq, beq_iff_eq,
    List.all_eq_true, ← tables]
  tauto

/-! ## What equal trees answer -/

theorem size_eq_of_same (same : t.same t' = true) : t.size = t'.size := by
  obtain ⟨-, -, nodes⟩ := same_iff.1 same
  have sizes := congrArg Array.size nodes
  rwa [Array.size_map, Array.size_map] at sizes

theorem settled_node_eq (same : t.same t' = true) (i : Fin t.size) :
    (t'.node (i.cast (size_eq_of_same same))).settled = (t.node i).settled := by
  obtain ⟨-, -, nodes⟩ := same_iff.1 same
  have placed : (t'.nodes.map Node.settled)[i.1]? = (t.nodes.map Node.settled)[i.1]? := by
    rw [nodes]
  have inTable' : i.1 < t'.nodes.size := (i.cast (size_eq_of_same same)).2
  rw [Array.getElem?_map, Array.getElem?_map, Array.getElem?_eq_getElem inTable',
    Array.getElem?_eq_getElem i.2] at placed
  exact Option.some.inj placed

/-- A tree stands in an equal one, each node under its own index. -/
theorem embeds_of_same (same : t.same t' = true) :
    t.Embeds t' (Fin.cast (size_eq_of_same same)) := by
  have alike (i : Fin t.size) := Node.mk.inj (settled_node_eq same i)
  exact
    { graph :=
        { injective := Fin.cast_injective _
          children := fun i => by
            have children := (alike i).2.2.2.2
            refine List.map_injective_iff.2 Fin.val_injective ?_
            rw [map_val_graph, children, ← map_val_graph, List.map_map]
            rfl }
      root := rfl
      accepts := fun i mode value => by
        rw [← Criterion.accepts_settled, (alike i).2.1, Criterion.accepts_settled]
      key := fun i => (alike i).2.2.1
      profile := fun i => (alike i).2.2.2.1 }

/-- Equal trees answer alike. -/
theorem answers_of_same (same : t.same t' = true) : t.Answers t' :=
  (embeds_of_same same).answers fun _ => rfl

/-! ## Equality -/

theorem same_refl (t : Tree) : t.same t = true := same_iff.2 ⟨rfl, rfl, rfl⟩

theorem same_symm (same : t.same t' = true) : t'.same t = true := by
  obtain ⟨version, publishDate, nodes⟩ := same_iff.1 same
  exact same_iff.2 ⟨version.symm, publishDate.symm, nodes.symm⟩

theorem same_trans (same : t.same t' = true) (same' : t'.same t'' = true) : t.same t'' = true := by
  obtain ⟨version, publishDate, nodes⟩ := same_iff.1 same
  obtain ⟨version', publishDate', nodes'⟩ := same_iff.1 same'
  exact same_iff.2 ⟨version.trans version', publishDate.trans publishDate', nodes.trans nodes'⟩

open Builder in
/-- What comes from the same bytes is equal, whatever builders it comes from and in whatever way
they are given. -/
theorem same_of_feed {builder builder' : Builder} {given given' : Feed}
    (document : given.document = given'.document) (built : (builder.feed given).1 = .ok t)
    (built' : (builder'.feed given').1 = .ok t') : t.same t' = true := by
  have trees : (.ok t : Except LoadFault Tree) = .ok t' := by
    rw [← built, ← built', feed_eq_outcome, feed_eq_outcome, document]
  cases trees
  exact t.same_refl

/-- A tree equals itself and what else is built from its bytes; equality has no direction and goes
on from tree to tree; and equal trees answer alike. -/
theorem same_sound :
    (∀ t : Tree, t.same t = true) ∧
    (∀ (builder builder' : Builder) (given given' : Builder.Feed) (t t' : Tree),
      given.document = given'.document → (builder.feed given).1 = .ok t →
        (builder'.feed given').1 = .ok t' → t.same t' = true) ∧
    (∀ t t' : Tree, t.same t' = true → t'.same t = true) ∧
    (∀ t t' t'' : Tree, t.same t' = true → t'.same t'' = true → t.same t'' = true) ∧
    ∀ t t' : Tree, t.same t' = true → t.Answers t' :=
  ⟨same_refl, fun _ _ _ _ _ _ => same_of_feed, fun _ _ => same_symm, fun _ _ _ => same_trans,
    fun _ _ => answers_of_same⟩

end Tree

/-! ### One tree in two documents -/

namespace Builder

open Json (Value)

/-- A table with a negative zero as a bound, and with numbers for a literal and a profile. -/
def signedData : List Value :=
  [.object [("n", .array [.ofNat 1, .ofNat 2])],
    .object [("m", .string "k"),
      ("r", .array [.number (.float ⟨true, .zero⟩), .number (.float default)]), ("x", .ofNat 1)],
    .object [("m", .string "k"), ("v", .ofNat 7), ("x", .ofNat 2)]]

/-- A table with zero in a wrapped range, and with texts for a literal and a profile. -/
def wrappedData : List Value :=
  [.object [("n", .array [.ofNat 1, .ofNat 2])],
    .object [("m", .string "k"),
      ("r", .array [.array [.number (.float default), .number (.float default)]]),
      ("x", .string "1")],
    .array [.string "7", .null, .string "k", .string " +2"]]

/-- The tree of the first table. -/
def signedZero : Tree where
  version := "1"
  publishDate := "d"
  nodes := #[⟨0, .root, none, none, [1, 2]⟩,
    ⟨1, .range ⟨true, .zero⟩ default, some "k", some 1, []⟩,
    ⟨2, .literal "7", some "k", some 2, []⟩]
  wellFormed :=
    { rooted := by decide
      index_eq := by decide
      root_iff := by decide
      bounded := by decide
      acyclic := Graph.acyclic_of_ascending (by decide) }

/-- The tree of the second table. -/
def wrappedZero : Tree where
  version := "1"
  publishDate := "d"
  nodes := #[⟨0, .root, none, none, [1, 2]⟩,
    ⟨1, .range default default, some "k", some 1, []⟩,
    ⟨2, .literal "7", some "k", some 2, []⟩]
  wellFormed :=
    { rooted := by decide
      index_eq := by decide
      root_iff := by decide
      bounded := by decide
      acyclic := Graph.acyclic_of_ascending (by decide) }

/-- Zero with and without a sign, in a range that is wrapped and in one that is not, make for equal
trees, which are two trees all the same and answer alike. -/
theorem same_sound_signedZero :
    (build {} ⟨some (.string "1"), some (.string "d"), some signedData⟩).1 = .ok signedZero ∧
      (build {} ⟨some (.ofNat 1), some (.string "d"), some wrappedData⟩).1 = .ok wrappedZero ∧
      signedZero.same wrappedZero = true ∧ signedZero ≠ wrappedZero ∧
      (signedZero.resolve {} (.ofAssoc [("k", .text "0")])) = ⟨some 1, [0, 1], none⟩ ∧
      (wrappedZero.resolve {} (.ofAssoc [("k", .text "0")])) = ⟨some 1, [0, 1], none⟩ := by
  have built : (build {} ⟨some (.string "1"), some (.string "d"), some signedData⟩).1 =
      .ok signedZero := build_eq_ok_iff.2 (.of_decodeFrom signedZero rfl)
  have stand : Document.StandFor wrappedData wrappedZero.nodes.toList :=
    (Document.decodeFrom_zero_eq_ok_iff.1 (rfl : decodeFrom 3 0 wrappedData = .ok _)).1
  have built' : (build {} ⟨some (.ofNat 1), some (.string "d"), some wrappedData⟩).1 =
      .ok wrappedZero :=
    build_eq_ok_iff.2 ⟨⟨_, rfl, .number⟩, ⟨_, rfl, .text⟩, _, rfl, stand⟩
  have same : signedZero.same wrappedZero = true := by decide
  have differ : signedZero ≠ wrappedZero := by
    intro equal
    have nodes : signedZero.nodes = wrappedZero.nodes := congrArg Tree.nodes equal
    revert nodes
    decide
  have resolution : wrappedZero.resolve {} (.ofAssoc [("k", .text "0")]) =
      ⟨some 1, [0, 1], none⟩ := by cbv
  obtain ⟨-, -, -, -, answers⟩ := Tree.same_sound
  refine ⟨built, built', same, differ, ?_, resolution⟩
  rw [← (answers _ _ same).resolve, resolution]

end Builder

end EvidenceTree
