import EvidenceTree.Proofs.Document.Acceptance
import EvidenceTree.Proofs.Document.Fields
import EvidenceTree.Proofs.Tree.Embeddings
import Mathlib.Data.Fin.Basic
import Mathlib.Logic.Equiv.Basic

/-!
# Tables in another order

The descriptors of a table may stand in another order, as long as the root's stays the first and
each descriptor names its children by their new places. Such a table is accepted where the first one
was, and its tree answers as the first one did, with other indices. So nothing depends on children
standing behind their parents, nor on the order of the table in any other way.

* `Document.reordered`: a table whose positions are permuted.
* `Document.Reordered.isTable_iff`: it is a table exactly where the first one is.
* `Document.Reordered.embeds`: the tree of the one stands in the tree of the other.
* `Builder.build_reordered`: both are built or neither is, and what their trees say is the same.
-/

namespace EvidenceTree

open Json (Value)

/-! ## Descriptors with other names for their children -/

namespace Descriptor

/-- An index under its new name. -/
def renameIndex (name : Nat → Nat) : Value → Value
  | .number (.integer index bounded) =>
    if 0 ≤ index then .ofNat (name index.toNat) else .number (.integer index bounded)
  | value => value

/-- A list of indices under their new names. What is no list stays as it is. -/
def renameChildren (name : Nat → Nat) : Value → Value
  | .array items => .array (items.map (renameIndex name))
  | value => value

/-- A descriptor that names its children by their new names. -/
def renamed (name : Nat → Nat) : Value → Value := changed .children (renameChildren name)

variable {name name' : Nat → Nat} {source value : Value} {index : Nat} {node : Node}
  {children : List Nat}

theorem NamesKey.renamed {key : Option String} (names : NamesKey source key) :
    NamesKey (renamed name source) key :=
  names.of_eq (content?_changed nofun)

theorem Asks.renamed {criterion : Criterion} (asks : Asks source criterion) :
    Asks (renamed name source) criterion :=
  asks.of_eq (content?_changed nofun) (content?_changed nofun)

theorem ofNat_toNat {value : Int} {bounded : -(2 ^ 63) ≤ value ∧ value < 2 ^ 64}
    (natural : 0 ≤ value) : Value.ofNat value.toNat = .number (.integer value bounded) := by
  simp only [Value.ofNat, Json.Number.ofNat, Value.number.injEq, Json.Number.integer.injEq]
  omega

theorem renameIndex_integer {value : Int} {bounded : -(2 ^ 63) ≤ value ∧ value < 2 ^ 64}
    (natural : 0 ≤ value) :
    renameIndex name (.number (.integer value bounded)) = .ofNat (name value.toNat) :=
  if_pos natural

theorem renameIndex_ofNat (small : index < 2 ^ 64) :
    renameIndex name (.ofNat index) = .ofNat (name index) := by
  have natural : (0 : Int) ≤ (min index (2 ^ 64 - 1) : Nat) := Int.natCast_nonneg _
  rw [Value.ofNat, Json.Number.ofNat, renameIndex_integer natural, Int.toNat_natCast,
    Nat.min_eq_left (by omega)]

theorem SpellsIndex.renamed (spells : SpellsIndex value index) (small : name index < 2 ^ 64) :
    SpellsIndex (renameIndex name value) (name index) := by
  rcases spells with ⟨natural⟩
  rw [renameIndex_integer natural]
  exact spellsIndex_ofNat small

theorem NamesChildren.renamed (names : NamesChildren source children)
    (small : ∀ c < 2 ^ 64, name c < 2 ^ 64) :
    NamesChildren (renamed name source) (children.map name) := by
  have held : held? (Descriptor.renamed name source) .children =
      (held? source .children).map (renameChildren name) := held?_changed_self
  cases names with
  | none absent => exact .none (by rw [held, absent]; rfl)
  | list here each =>
    refine .list (by rw [held, here]; rfl) (List.forall₂_map_left_iff.2
      (List.forall₂_map_right_iff.2 (each.imp fun item c spells => ?_)))
    exact spells.renamed (small c spells.lt)

/-- A descriptor with other names for its children stands for the node with these names. -/
theorem Stands.renamed (stands : Stands index source node) (root : name index = 0 ↔ index = 0)
    (small : ∀ c < 2 ^ 64, name c < 2 ^ 64) :
    Stands (name index) (renamed name source)
      { node with index := name index, children := node.children.map name } where
  form := stands.form.changed
  index_eq := rfl
  root first := stands.root (root.1 first)
  asks above := (stands.asks fun first => above (root.2 first)).renamed
  key := stands.key.renamed
  profile := by
    have same : content? (Descriptor.renamed name source) .profile = content? source .profile :=
      content?_changed nofun
    rw [same]
    exact stands.profile
  children := stands.children.renamed small

/-! ### Names that are taken back -/

/-- The second names lead back from the first ones. -/
def TakenBack (name name' : Nat → Nat) : Prop :=
  ∀ c < 2 ^ 64, name c < 2 ^ 64 ∧ name' (name c) = c

theorem TakenBack.renameIndex (back : TakenBack name name') (value : Value) :
    renameIndex name' (renameIndex name value) = value := by
  cases value with
  | number n =>
    cases n with
    | integer index bounded =>
      by_cases natural : 0 ≤ index
      · obtain ⟨small, leadsBack⟩ := back index.toNat (by omega)
        rw [renameIndex_integer natural, renameIndex_ofNat small, leadsBack]
        exact ofNat_toNat natural
      · have kept (name : Nat → Nat) : Descriptor.renameIndex name
            (.number (.integer index bounded)) = .number (.integer index bounded) := if_neg natural
        rw [kept, kept]
    | float x => rfl
  | _ => rfl

theorem TakenBack.renameChildren (back : TakenBack name name') (value : Value) :
    renameChildren name' (renameChildren name value) = value := by
  cases value with
  | array items =>
    have each : (items.map (Descriptor.renameIndex name)).map (Descriptor.renameIndex name') =
        items := by
      rw [List.map_map]
      exact List.map_id'' back.renameIndex items
    exact congrArg Value.array each
  | _ => rfl

theorem TakenBack.renamed (back : TakenBack name name') :
    Descriptor.renamed name' (Descriptor.renamed name source) = source :=
  changed_changed back.renameChildren

end Descriptor

open Descriptor

/-! ## Tables in another order -/

/-- Where a permutation of the positions of a table moves an index. An index beyond the table
stays. -/
def place {size : Nat} (p : Equiv.Perm (Fin size)) : Equiv.Perm Nat :=
  p.extendDomain Fin.equivSubtype

namespace Document

/-- The table with its positions permuted: the descriptor at `i` stands at `p i`, and each
descriptor names its children by their new places. -/
def reordered (data : List Value) (p : Equiv.Perm (Fin data.length)) : List Value :=
  List.ofFn fun i => renamed (place p) (data.get (p.symm i))

/-- The second table is the first one in another order, in which the root's descriptor is still the
first. Its indices have 64 bits. -/
structure Reordered (move : Equiv.Perm Nat) (data data' : List Value) : Prop where
  root : move 0 = 0
  beyond : ∀ i, data.length ≤ i → move i = i
  small : data.length ≤ 2 ^ 64
  same_length : data'.length = data.length
  each : ∀ i source, data[i]? = some source → data'[move i]? = some (renamed move source)

variable {data data' : List Value} {move : Equiv.Perm Nat} {i c p : Nat}

theorem reordered_reordered {p : Equiv.Perm (Fin data.length)} (root : place p 0 = 0)
    (small : data.length ≤ 2 ^ 64) : Reordered (place p) data (reordered data p) where
  root := root
  beyond i isBeyond := Equiv.Perm.extendDomain_apply_not_subtype p _ (Nat.not_lt.2 isBeyond)
  small := small
  same_length := List.length_ofFn
  each i source here := by
    obtain ⟨inData, rfl⟩ := List.getElem?_eq_some_iff.1 here
    have moved : place p i = p ⟨i, inData⟩ :=
      Equiv.Perm.extendDomain_apply_subtype p Fin.equivSubtype inData
    rw [moved]
    simp [reordered]

namespace Reordered

theorem move_lt_iff (order : Reordered move data data') :
    move i < data.length ↔ i < data.length := by
  constructor
  · intro movedInside
    by_contra outside
    rw [order.beyond i (Nat.not_lt.1 outside)] at movedInside
    exact outside movedInside
  · intro inside
    by_contra movedOutside
    -- what is moved beyond the table stays there, so it has been there before
    have stays : move (move i) = move i := order.beyond _ (Nat.not_lt.1 movedOutside)
    rw [move.injective stays] at movedOutside
    exact movedOutside inside

theorem move_eq_zero_iff (order : Reordered move data data') : move i = 0 ↔ i = 0 :=
  ⟨fun first => move.injective (first.trans order.root.symm), fun first => first ▸ order.root⟩

theorem move_lt (order : Reordered move data data') (small : i < 2 ^ 64) : move i < 2 ^ 64 := by
  by_cases inside : i < data.length
  · exact Nat.lt_of_lt_of_le (order.move_lt_iff.2 inside) order.small
  · rwa [order.beyond i (Nat.not_lt.1 inside)]

/-- What stands in the second table has come from the first one. -/
theorem exists_source (order : Reordered move data data') {j : Nat} {source' : Value}
    (here : data'[j]? = some source') :
    ∃ i source, data[i]? = some source ∧ move i = j ∧ renamed move source = source' := by
  have inside : move.symm j < data.length := by
    rw [← order.move_lt_iff, Equiv.apply_symm_apply, ← order.same_length]
    exact (List.getElem?_eq_some_iff.1 here).1
  have moved := order.each _ _ (List.getElem?_eq_getElem inside)
  rw [Equiv.apply_symm_apply, here] at moved
  exact ⟨_, _, List.getElem?_eq_getElem inside, move.apply_symm_apply j,
    (Option.some.inj moved).symm⟩

theorem symm (order : Reordered move data data') : Reordered move.symm data' data where
  root := by rw [Equiv.symm_apply_eq, order.root]
  beyond i isBeyond := by
    rw [Equiv.symm_apply_eq, order.beyond i (order.same_length ▸ isBeyond)]
  small := order.same_length ▸ order.small
  same_length := order.same_length.symm
  each j source' here := by
    obtain ⟨i, source, original, rfl, rfl⟩ := order.exists_source here
    have back : TakenBack move move.symm :=
      fun c small => ⟨order.move_lt small, move.symm_apply_apply c⟩
    rw [Equiv.symm_apply_apply, back.renamed]
    exact original

/-! ### Acceptance -/

theorem childOf_of_childOf (order : Reordered move data data') (table : IsTable data)
    (isChild : ChildOf data' c p) : ChildOf data (move.symm c) (move.symm p) := by
  obtain ⟨source', children', here', names', declared⟩ := isChild
  obtain ⟨i, source, here, rfl, rfl⟩ := order.exists_source here'
  obtain ⟨children, names⟩ := table.children source (List.mem_of_getElem? here)
  cases names'.unique (names.renamed fun c => order.move_lt)
  obtain ⟨child, isNamed, rfl⟩ := List.mem_map.1 declared
  rw [Equiv.symm_apply_apply, Equiv.symm_apply_apply]
  exact ⟨source, children, here, names, isNamed⟩

theorem isTable (order : Reordered move data data') (table : IsTable data) : IsTable data' := by
  refine .of_stands ?_ (fun j source' here => ?_) (fun c p isChild => ?_) fun i below => ?_
  · have nonempty := List.length_pos_iff.2 table.rooted
    rw [← order.same_length] at nonempty
    exact List.length_pos_iff.1 nonempty
  · obtain ⟨i, source, original, rfl, rfl⟩ := order.exists_source here
    obtain ⟨node, stands⟩ := table.exists_stands original
    exact ⟨_, stands.renamed order.move_eq_zero_iff fun c => order.move_lt⟩
  · have inside := table.bounded _ _ (order.childOf_of_childOf table isChild)
    rw [order.same_length, ← move.apply_symm_apply c, order.move_lt_iff]
    exact inside
  · exact table.acyclic _ (below.lift move.symm fun c p => order.childOf_of_childOf table)

/-- The second table is one exactly where the first is. -/
theorem isTable_iff (order : Reordered move data data') : IsTable data' ↔ IsTable data :=
  ⟨order.symm.isTable, order.isTable⟩

/-! ### Trees -/

variable {tree tree' : Tree}

/-- A node has moved with its descriptor. -/
theorem getElem?_move (order : Reordered move data data') (stand : StandFor data tree.nodes.toList)
    (stand' : StandFor data' tree'.nodes.toList) (i : Fin tree.size) :
    tree'.nodes[move i]? = some { tree.node i with
      index := move i, children := (tree.node i).children.map move } := by
  obtain ⟨source, here, stands⟩ := stand.exists_source (Array.getElem?_eq_getElem i.2)
  obtain ⟨node', placed, stands'⟩ := stand'.exists_node (order.each i source here)
  rw [placed]
  exact congrArg some
    (stands'.unique (stands.renamed order.move_eq_zero_iff fun c => order.move_lt))

/-- The tree of the first table stands in that of the second one. -/
theorem embeds (order : Reordered move data data') (stand : StandFor data tree.nodes.toList)
    (stand' : StandFor data' tree'.nodes.toList) :
    ∃ name : Fin tree.size → Fin tree'.size, (∀ i, (name i).1 = move i) ∧
      tree.Embeds tree' name := by
  have placed := order.getElem?_move stand stand'
  have inside (i : Fin tree.size) : move i < tree'.size :=
    (Array.getElem?_eq_some_iff.1 (placed i)).1
  have node_eq (i : Fin tree.size) : tree'.node ⟨move i, inside i⟩ = { tree.node i with
      index := move i, children := (tree.node i).children.map move } :=
    (Array.getElem?_eq_some_iff.1 (placed i)).2
  refine ⟨fun i => ⟨move i, inside i⟩, fun _ => rfl, ?_⟩
  refine
    { graph := ⟨fun i j same => ?_, fun i => ?_⟩
      root := Fin.ext order.root
      accepts := fun i mode value => by rw [node_eq]
      key := fun i => by rw [node_eq]
      profile := fun i => by rw [node_eq] }
  · exact Fin.ext (move.injective (congrArg Fin.val same))
  · refine List.map_injective_iff.2 Fin.val_injective ?_
    rw [Tree.map_val_graph, node_eq, ← Tree.map_val_graph, List.map_map, List.map_map]
    rfl

end Reordered

end Document

/-! ## What the trees answer -/

/-- A tree answers as another one does, with other indices. -/
structure Tree.AgreesUnder (move : Nat → Nat) (t t' : Tree) : Prop where
  resolve : ∀ options source, t'.resolve options source =
    { t.resolve options source with path := (t.resolve options source).path.map move }
  preorder : t'.preorder.map Fin.val = (t.preorder.map Fin.val).map move
  leaves : t'.leaves.map Fin.val = (t.leaves.map Fin.val).map move
  depth : t'.depth = t.depth
  reachable : t'.reachable = t.reachable
  profiles : t'.profiles = t.profiles

theorem Tree.Embeds.agreesUnder {t t' : Tree} {name : Fin t.size → Fin t'.size} {move : Nat → Nat}
    (embeds : t.Embeds t' name) (moves : ∀ i, (name i).1 = move i) : t.AgreesUnder move t' := by
  have vals (nodes : List (Fin t.size)) :
      (nodes.map name).map Fin.val = (nodes.map Fin.val).map move := by
    rw [List.map_map, List.map_map]
    exact List.map_congr_left fun i _ => moves i
  exact
    { resolve := fun options source => by
        rw [embeds.resolve_eq]
        exact Resolution.ext rfl (vals _) rfl
      preorder := by rw [embeds.preorder_eq, vals]
      leaves := by rw [embeds.leaves_eq, vals]
      depth := embeds.depth_eq
      reachable := embeds.reachable_eq
      profiles := embeds.profiles_eq }

/-- A tree answers what another one does, under the same indices. -/
structure Tree.Answers (t t' : Tree) : Prop where
  resolve : ∀ options source, t'.resolve options source = t.resolve options source
  preorder : t'.preorder.map Fin.val = t.preorder.map Fin.val
  leaves : t'.leaves.map Fin.val = t.leaves.map Fin.val
  depth : t'.depth = t.depth
  reachable : t'.reachable = t.reachable
  profiles : t'.profiles = t.profiles

theorem Tree.Embeds.answers {t t' : Tree} {name : Fin t.size → Fin t'.size}
    (embeds : t.Embeds t' name) (index : ∀ i, (name i).1 = i.1) : t.Answers t' := by
  have agrees : t.AgreesUnder id t' := embeds.agreesUnder index
  exact
    { resolve := fun options source =>
        (agrees.resolve options source).trans (Resolution.ext rfl (List.map_id _) rfl)
      preorder := agrees.preorder.trans (List.map_id _)
      leaves := agrees.leaves.trans (List.map_id _)
      depth := agrees.depth
      reachable := agrees.reachable
      profiles := agrees.profiles }

namespace Builder

open Document

/-- A document is built exactly where it is built with its table in another order, and the two trees
answer the same, with other indices. -/
theorem build_reordered (builder builder' : Builder) (version publishDate : Option Value)
    (data : List Value) (p : Equiv.Perm (Fin data.length)) (root : place p 0 = 0)
    (small : data.length ≤ 2 ^ 64) :
    ((∃ tree, (builder.build ⟨version, publishDate, some data⟩).1 = .ok tree) ↔
        ∃ tree', (builder'.build ⟨version, publishDate, some (reordered data p)⟩).1 = .ok tree') ∧
      ∀ tree tree', (builder.build ⟨version, publishDate, some data⟩).1 = .ok tree →
        (builder'.build ⟨version, publishDate, some (reordered data p)⟩).1 = .ok tree' →
          tree.AgreesUnder (place p) tree' := by
  have order := reordered_reordered root small
  constructor
  · rw [exists_build_eq_ok_iff, exists_build_eq_ok_iff]
    constructor
    · intro buildable
      obtain ⟨_, ⟨⟩, table⟩ := buildable.data
      exact ⟨buildable.version, buildable.publishDate, _, rfl, order.isTable table⟩
    · intro buildable
      obtain ⟨_, ⟨⟩, table⟩ := buildable.data
      exact ⟨buildable.version, buildable.publishDate, _, rfl, order.isTable_iff.1 table⟩
  · intro tree tree' built built'
    obtain ⟨_, ⟨⟩, stand⟩ := (build_eq_ok_iff.1 built).data
    obtain ⟨_, ⟨⟩, stand'⟩ := (build_eq_ok_iff.1 built').data
    obtain ⟨name, moves, embeds⟩ := order.embeds stand stand'
    exact embeds.agreesUnder moves

/-- A table in which each node stands behind its parent. -/
def chainData : List Value :=
  [.object [("n", .array [.ofNat 1])],
    .object [("m", .string "k"), ("n", .array [.ofNat 2]), ("v", .string "a")],
    .array [.string "b", .null, .string "l", .ofNat 7]]

/-- The tree of the table. -/
def chain : Tree where
  version := "1"
  publishDate := "d"
  nodes := #[⟨0, .root, none, none, [1]⟩, ⟨1, .literal "a", some "k", none, [2]⟩,
    ⟨2, .literal "b", some "l", some 7, []⟩]
  wellFormed :=
    { rooted := by decide
      index_eq := by decide
      root_iff := by decide
      bounded := by decide
      acyclic := Graph.acyclic_of_ascending (by decide) }

/-- The two nodes below the root trade places. -/
def chainSwap : Equiv.Perm (Fin chainData.length) := Equiv.swap ⟨1, by decide⟩ ⟨2, by decide⟩

/-- A table in which a node stands in front of its parent is built as well. -/
theorem build_reordered_chain :
    place chainSwap 0 = 0 ∧ chainData.length ≤ 2 ^ 64 ∧
      reordered chainData chainSwap =
        [.object [("n", .array [.ofNat 2])], .array [.string "b", .null, .string "l", .ofNat 7],
          .object [("m", .string "k"), ("n", .array [.ofNat 1]), ("v", .string "a")]] ∧
      ∃ tree', (build {} ⟨some (.string "1"), some (.string "d"),
          some (reordered chainData chainSwap)⟩).1 = .ok tree' ∧
        (tree'.resolve {} (.ofAssoc [("k", .text "a"), ("l", .text "b")])).path = [0, 2, 1] := by
  have root : place chainSwap 0 = 0 := by decide
  have small : chainData.length ≤ 2 ^ 64 := by decide
  have decoded : decodeFrom 3 0 chainData = .ok chain.nodes.toList := rfl
  have stand : StandFor chainData chain.nodes.toList := (decodeFrom_zero_eq_ok_iff.1 decoded).1
  have built : (build {} ⟨some (.string "1"), some (.string "d"), some chainData⟩).1 =
      .ok chain := build_eq_ok_iff.2 ⟨⟨_, rfl, .text⟩, ⟨_, rfl, .text⟩, _, rfl, stand⟩
  obtain ⟨accepted, agrees⟩ := build_reordered {} {} (some (.string "1")) (some (.string "d"))
    chainData chainSwap root small
  obtain ⟨tree', built'⟩ := accepted.1 ⟨chain, built⟩
  refine ⟨root, small, rfl, tree', built', ?_⟩
  have path : (chain.resolve {} (.ofAssoc [("k", .text "a"), ("l", .text "b")])).path =
      [0, 1, 2] := by
    cbv
  rw [(agrees chain tree' built built').resolve, path]
  decide

end Builder

end EvidenceTree
