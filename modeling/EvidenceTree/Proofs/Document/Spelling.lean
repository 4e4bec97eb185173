import EvidenceTree.Proofs.Document.Acceptance
import EvidenceTree.Proofs.Document.Fields
import EvidenceTree.Proofs.Resolution.Inheritance
import EvidenceTree.Proofs.Tree.Indices

/-!
# Which tables are built

The tables that come out of documents are described here without any document, and each of them does
come out of one: of that which spells its nodes out, field by field. Nothing of a table is lost on
the way, neither a node that the root does not reach nor a child that is named twice nor a text that
is empty.

* `Table.IsLegal`: what holds of the table of a tree, in terms of plain indices.
* `Document.spelling`: the document that spells a table out.
* `Table.isLegal_iff_wellFormed`: this is all that makes a table a tree, for indices of 64 bits.
* `Builder.build_image`: the tables that are built are the legal ones, and each is built from the
  document that spells it out.
-/

namespace EvidenceTree

open Descriptor
open Json (Value)

/-! ## Finite numbers -/

theorem two_pow_le_mul {a b c : Nat} (le : a ≤ b + c) : 2 ^ a ≤ 2 ^ b * 2 ^ c := by
  rw [← Nat.pow_add]
  exact Nat.pow_le_pow_right Nat.two_pos le

/-- The finite numbers of the format end below `2 ^ 1024`. -/
theorem Magnitude.units_lt (m : Magnitude) : m.units < 2 ^ 1024 * unitsPerOne := by
  have below : m.units < 2 ^ 53 * 2 ^ m.exponent :=
    Nat.mul_lt_mul_of_pos_right m.mantissa_lt (Nat.two_pow_pos _)
  have fits : m.exponent + 53 ≤ 1024 + 1074 := Nat.add_le_add_right m.exponent_le 53
  rw [Nat.mul_comm, ← Nat.pow_add] at below
  rw [unitsPerOne]
  exact Nat.lt_of_lt_of_le below (two_pow_le_mul fits)

theorem Finite64.natAbs_units_lt (x : Finite64) : x.units.natAbs < 2 ^ 1024 * unitsPerOne := by
  have natAbs_eq : x.units.natAbs = x.magnitude.units := by
    unfold units
    split <;> omega
  rw [natAbs_eq]
  exact x.magnitude.units_lt

/-! ## Legal tables -/

namespace Table

/-- The node at `p` names `c` as a child. -/
def Names (nodes : Array Node) (c p : Nat) : Prop :=
  ∃ node, nodes[p]? = some node ∧ c ∈ node.children

/-- What holds of the table of a tree. An index has 64 bits, and a bound is a finite number, below
`2 ^ 1024`. -/
structure IsLegal (nodes : Array Node) : Prop where
  nonempty : nodes ≠ #[]
  index_eq : ∀ (i : Nat) (node : Node), nodes[i]? = some node → node.index = i
  root_iff : ∀ (i : Nat) (node : Node), nodes[i]? = some node →
    (node.criterion = .root ↔ i = 0)
  finite : ∀ (i : Nat) (node : Node) (low high : Finite64), nodes[i]? = some node →
    node.criterion = .range low high →
    low.units.natAbs < 2 ^ 1024 * unitsPerOne ∧ high.units.natAbs < 2 ^ 1024 * unitsPerOne
  bounded : ∀ c p, Names nodes c p → c < nodes.size
  sized : ∀ c p, Names nodes c p → c < 2 ^ 64
  acyclic : ∀ i, ¬ Relation.TransGen (Names nodes) i i

/-- No node that an index names, or that is reached from it, names the first one. -/
theorem IsLegal.not_names_zero {nodes : Array Node} (legal : IsLegal nodes) {i : Nat}
    (reached : Relation.ReflTransGen (Names nodes) i 0) : ¬ Names nodes 0 i :=
  fun isChild => legal.acyclic 0 (.head' isChild reached)

end Table

open Table

/-! ## Descriptors that spell nodes out -/

/-- What the fields hold that spell out what a node asks. -/
def Criterion.contents : Criterion → Field → Option Value
  | .literal text, .literal => some (.string text)
  | .range low high, .range => some (.array [.number (.float low), .number (.float high)])
  | _, _ => none

/-- What the fields of a descriptor hold that spells a node out. -/
def Node.contents (node : Node) : Field → Option Value
  | .key => node.key.map .string
  | .profile => node.profile.map fun id => .ofNat id.toNat
  | .children => some (.array (node.children.map .ofNat))
  | field => node.criterion.contents field

namespace Descriptor

variable {node : Node} {index : Nat}

theorem namesKey_spelled : NamesKey (spelled node.contents) node.key := by
  have said : content? (spelled node.contents) .key = (node.key.map Value.string).bind anyField :=
    content?_spelled
  cases named : node.key with
  | none => exact .none (by rw [said, named]; rfl)
  | some key => exact .text (by rw [said, named]; rfl)

theorem asks_spelled (above : node.criterion ≠ .root) :
    Asks (spelled node.contents) node.criterion := by
  have literal : content? (spelled node.contents) .literal =
      (node.criterion.contents .literal).bind anyField := content?_spelled
  have range : content? (spelled node.contents) .range =
      (node.criterion.contents .range).bind anyField := content?_spelled
  cases asked : node.criterion with
  | root => exact absurd asked above
  | literal text =>
    rw [asked] at literal
    exact .literal literal (.scalar .string)
  | range low high =>
    rw [asked] at literal range
    exact .range literal range .flat

theorem profileOf?_ofNat (id : ProfileId) : profileOf? (.ofNat id.toNat) = some id := by
  have small : id.toNat < 2 ^ 32 := id.toNat_lt
  have toNat : (Json.Number.ofNat id.toNat).toNat? = some id.toNat := by
    unfold Json.Number.ofNat Json.Number.toNat?
    dsimp only
    rw [if_pos (Int.natCast_nonneg _), Int.toNat_natCast, Nat.min_eq_left (by omega)]
  rw [Value.ofNat, profileOf?, toNat, Option.bind_some, profileOfNat?, if_pos small,
    UInt32.ofNat_toNat]

theorem profile_spelled :
    (content? (spelled node.contents) .profile).bind profileOf? = node.profile := by
  have said : content? (spelled node.contents) .profile =
      (node.profile.map fun id => Value.ofNat id.toNat).bind anyField := content?_spelled
  rw [said]
  cases node.profile with
  | none => rfl
  | some id => exact profileOf?_ofNat id

theorem namesChildren_spelled (sized : ∀ c ∈ node.children, c < 2 ^ 64) :
    NamesChildren (spelled node.contents) node.children :=
  .list held?_spelled (List.forall₂_map_left_iff.2
    (List.forall₂_same.2 fun c declared => spellsIndex_ofNat (sized c declared)))

/-- A descriptor that spells a node out stands for it. -/
theorem stands_spelled (index_eq : node.index = index) (root : node.criterion = .root ↔ index = 0)
    (sized : ∀ c ∈ node.children, c < 2 ^ 64) : Stands index (spelled node.contents) node where
  form := .inl ⟨_, rfl⟩
  index_eq := index_eq
  root := root.2
  asks above := asks_spelled (root.not.2 above)
  key := namesKey_spelled
  profile := profile_spelled.symm
  children := namesChildren_spelled sized

end Descriptor

/-! ## Tables that are spelled out -/

namespace Document

/-- The descriptors that spell a table out. -/
def spelledData (nodes : Array Node) : List Value :=
  nodes.toList.map fun node => spelled node.contents

/-- The document that spells a table out. -/
def spelling (version publishDate : String) (nodes : Array Node) : Document :=
  ⟨some (.string version), some (.string publishDate), some (spelledData nodes)⟩

variable {nodes : Array Node} {data : List Value}

theorem StandFor.childOf_eq (stand : StandFor data nodes.toList) : ChildOf data = Names nodes := by
  funext c p
  rw [eq_iff_iff, stand.childOf_iff]
  constructor
  · rintro ⟨inside, declared⟩
    exact ⟨nodes[p], Array.getElem?_eq_getElem inside, declared⟩
  · rintro ⟨node, here, declared⟩
    obtain ⟨inside, rfl⟩ := Array.getElem?_eq_some_iff.1 here
    exact ⟨inside, declared⟩

theorem standFor_spelledData
    (index_eq : ∀ (i : Nat) (node : Node), nodes[i]? = some node → node.index = i)
    (root_iff : ∀ (i : Nat) (node : Node), nodes[i]? = some node →
      (node.criterion = .root ↔ i = 0))
    (sized : ∀ c p, Names nodes c p → c < 2 ^ 64) :
    StandFor (spelledData nodes) nodes.toList where
  same_length := (List.length_map _).symm
  each i source here := by
    rw [spelledData, List.getElem?_map, Option.map_eq_some_iff] at here
    obtain ⟨node, placed, rfl⟩ := here
    rw [Array.getElem?_toList] at placed
    exact ⟨node, Array.getElem?_toList ▸ placed, stands_spelled (index_eq i node placed)
      (root_iff i node placed) fun c declared => sized c i ⟨node, placed, declared⟩⟩

end Document

namespace Table

open Document

variable {nodes : Array Node} {data : List Value}

theorem index_eq_of_wellFormed (wellFormed : WellFormed nodes) (i : Nat) (node : Node)
    (here : nodes[i]? = some node) : node.index = i := by
  obtain ⟨inside, rfl⟩ := Array.getElem?_eq_some_iff.1 here
  exact wellFormed.index_eq i inside

theorem root_iff_of_wellFormed (wellFormed : WellFormed nodes) (i : Nat) (node : Node)
    (here : nodes[i]? = some node) : node.criterion = .root ↔ i = 0 := by
  obtain ⟨inside, rfl⟩ := Array.getElem?_eq_some_iff.1 here
  exact wellFormed.root_iff i inside

/-- The nodes of descriptors make a legal table if they make the table of a tree. -/
theorem isLegal_of_standFor (stand : StandFor data nodes.toList) (wellFormed : WellFormed nodes) :
    IsLegal nodes := by
  refine
    { nonempty := Array.size_pos_iff.1 wellFormed.rooted
      index_eq := index_eq_of_wellFormed wellFormed
      root_iff := root_iff_of_wellFormed wellFormed
      finite := fun i node low high _ _ => ⟨low.natAbs_units_lt, high.natAbs_units_lt⟩
      bounded := fun c p isChild => ?_
      sized := fun c p isChild => ?_
      acyclic := stand.childOf_eq ▸ stand.acyclic_iff.1 wellFormed.acyclic }
  · obtain ⟨node, here, declared⟩ := isChild
    obtain ⟨inside, rfl⟩ := Array.getElem?_eq_some_iff.1 here
    exact wellFormed.bounded p inside c declared
  · rw [← stand.childOf_eq] at isChild
    obtain ⟨source, children, -, names, declared⟩ := isChild
    exact names.lt c declared

theorem IsLegal.standFor (legal : IsLegal nodes) : StandFor (spelledData nodes) nodes.toList :=
  standFor_spelledData legal.index_eq legal.root_iff legal.sized

/-- A legal table is the table of a tree. -/
theorem IsLegal.wellFormed (legal : IsLegal nodes) : WellFormed nodes := by
  have named (i : Nat) (inside : i < nodes.size) (c : Nat) (declared : c ∈ nodes[i].children) :
      Names nodes c i := ⟨nodes[i], Array.getElem?_eq_getElem inside, declared⟩
  exact
    { rooted := Array.size_pos_iff.2 legal.nonempty
      index_eq := fun i inside => legal.index_eq i _ (Array.getElem?_eq_getElem inside)
      root_iff := fun i inside => legal.root_iff i _ (Array.getElem?_eq_getElem inside)
      bounded := fun i inside c declared => legal.bounded c i (named i inside c declared)
      acyclic := by
        rw [legal.standFor.acyclic_iff, legal.standFor.childOf_eq]
        exact legal.acyclic }

/-- This is all that makes a table the table of a tree, for indices of 64 bits. -/
theorem isLegal_iff_wellFormed :
    IsLegal nodes ↔ WellFormed nodes ∧ ∀ c p, Names nodes c p → c < 2 ^ 64 := by
  constructor
  · intro legal
    exact ⟨legal.wellFormed, legal.sized⟩
  · rintro ⟨wellFormed, sized⟩
    exact isLegal_of_standFor (standFor_spelledData (index_eq_of_wellFormed wellFormed)
      (root_iff_of_wellFormed wellFormed) sized) wellFormed

end Table

namespace Builder

open Document

theorem isLegal_of_build {builder : Builder} {document : Document} {tree : Tree}
    (built : (builder.build document).1 = .ok tree) : IsLegal tree.nodes := by
  obtain ⟨data, -, stand⟩ := (build_eq_ok_iff.1 built).data
  exact isLegal_of_standFor stand tree.wellFormed

theorem build_spelling (builder : Builder) (version publishDate : String) {nodes : Array Node}
    (legal : IsLegal nodes) :
    (builder.build (spelling version publishDate nodes)).1 =
      .ok ⟨version, publishDate, nodes, legal.wellFormed⟩ :=
  build_eq_ok_iff.2 ⟨⟨_, rfl, .text⟩, ⟨_, rfl, .text⟩, _, rfl, legal.standFor⟩

/-- The tables that are built are the legal ones. The root of such a table is no child of a node
that it reaches, so no evidence is ever asked for it, and nothing that is asked of the table by
plain indices is out of range. From the document that spells it out each legal table is built, with
the version and the date that this document gives. -/
theorem build_image (builder : Builder) :
    (∀ nodes, (∃ document tree, (builder.build document).1 = .ok tree ∧ tree.nodes = nodes) ↔
        IsLegal nodes) ∧
      (∀ document tree, (builder.build document).1 = .ok tree →
        (∀ i, Relation.ReflTransGen (Names tree.nodes) i 0 → ¬ Names tree.nodes 0 i) ∧
          (∀ options source, ∀ i ∈ (tree.descent options source).path,
            ¬ tree.graph.Child tree.root i) ∧
          tree.InRange) ∧
      ∀ version publishDate nodes, ∀ legal : IsLegal nodes,
        (builder.build (spelling version publishDate nodes)).1 =
          .ok ⟨version, publishDate, nodes, legal.wellFormed⟩ := by
  refine ⟨fun nodes => ⟨?_, fun legal => ?_⟩, fun document tree built => ⟨?_, ?_, tree.inRange⟩,
    fun version publishDate nodes legal => build_spelling builder version publishDate legal⟩
  · rintro ⟨document, tree, built, rfl⟩
    exact isLegal_of_build built
  · exact ⟨_, _, build_spelling builder "" "" legal, rfl⟩
  · exact fun i reached => (isLegal_of_build built).not_names_zero reached
  · intro options source i onPath
    have leads := (tree.describes_descent options source).leads
    refine Tree.Reaches.not_child_root (leads.reaches (fun first isFirst => ?_) i onPath)
    rw [Tree.head?_descent] at isFirst
    exact .inl (Option.some.inj isFirst).symm

/-- A table with a shared node, a child that is named twice, empty texts, a bound that is the
negative zero and a node that the root does not reach but that names the root. -/
def mixedNodes : Array Node :=
  #[⟨0, .root, some "", some 3, [1, 2, 1]⟩, ⟨1, .literal "", none, none, [3]⟩,
    ⟨2, .range ⟨true, .zero⟩ default, some "k", none, [3]⟩, ⟨3, .literal "b", none, some 7, []⟩,
    ⟨4, .literal "c", some "", none, [0]⟩]

theorem isLegal_mixedNodes : IsLegal mixedNodes := by
  have wellFormed : WellFormed mixedNodes :=
    { rooted := by decide
      index_eq := by decide
      root_iff := by decide
      bounded := by decide
      acyclic := Graph.acyclic_of_rank (fun i => [2, 1, 1, 0, 3].getD i 0) (by decide) }
  refine isLegal_iff_wellFormed.2 ⟨wellFormed, fun c p isChild => ?_⟩
  obtain ⟨node, here, declared⟩ := isChild
  obtain ⟨inside, rfl⟩ := Array.getElem?_eq_some_iff.1 here
  have small : c < 5 := wellFormed.bounded p inside c declared
  omega

/-- All of such a table comes back from the document that spells it out. -/
theorem build_image_mixedNodes :
    IsLegal mixedNodes ∧
      spelledData mixedNodes =
        [.object [("m", .string ""), ("n", .array [.ofNat 1, .ofNat 2, .ofNat 1]), ("x", .ofNat 3)],
          .object [("n", .array [.ofNat 3]), ("v", .string "")],
          .object [("m", .string "k"), ("n", .array [.ofNat 3]),
            ("r", .array [.number (.float ⟨true, .zero⟩), .number (.float default)])],
          .object [("n", .array []), ("v", .string "b"), ("x", .ofNat 7)],
          .object [("m", .string ""), ("n", .array [.ofNat 0]), ("v", .string "c")]] ∧
      (build {} (spelling "" "" mixedNodes)).1 =
        .ok ⟨"", "", mixedNodes, isLegal_mixedNodes.wellFormed⟩ :=
  ⟨isLegal_mixedNodes, rfl, (build_image {}).2.2 "" "" mixedNodes isLegal_mixedNodes⟩

end Builder

end EvidenceTree
