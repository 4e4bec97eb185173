import EvidenceTree.Proofs.Document.Acceptance
import EvidenceTree.Proofs.Document.Fields
import EvidenceTree.Proofs.Resolution.Inheritance
import Mathlib.Tactic.IntervalCases

/-!
# Writing inherited keys out

A document may leave it to the resolution to inherit keys, or write each key into the descriptors
that inherit it. Where no node has two parents, the two come to the same: the document with the keys
written out is built where the first one is, and its tree gives the same answers, whether keys are
inherited or not.

Which ancestor a key comes from matters. A node that the root does not reach may name the root as a
child and is then an ancestor of all that is reached; its key is inherited by none of them.

* `Document.filled`: a document with keys written into its descriptors.
* `Document.isTable_filled`: it stays a table.
* `Builder.build_filled`: with the inherited keys written out, all answers stay the same.
* `Builder.build_filled_from_unreached`: with a key from beyond the root they do not.
-/

namespace EvidenceTree

open Json (Value)

/-! ## Descriptors with a key -/

namespace Descriptor

/-- A descriptor with a key in place of its own, if there is one. -/
def filled : Option String → Value → Value
  | some key, source => put .key (.string key) source
  | none, source => source

variable {key old : Option String} {source : Value} {children : List Nat} {criterion : Criterion}
  {index : Nat} {node : Node}

theorem HasForm.filled (form : HasForm source) : HasForm (filled key source) := by
  cases key with
  | none => exact form
  | some key => exact form.put

theorem content?_filled {field : Field} (other : field ≠ .key) :
    content? (filled key source) field = content? source field := by
  cases key with
  | none => rfl
  | some key => exact content?_put other

theorem held?_filled_children : held? (filled key source) .children = held? source .children := by
  cases key with
  | none => rfl
  | some key => exact held?_put_children nofun

theorem NamesKey.filled (names : NamesKey source old) (form : HasForm source) :
    NamesKey (filled key source) (key.or old) := by
  cases key with
  | none => exact names
  | some key =>
    refine .text ?_
    unfold content?
    rw [Descriptor.filled, held?_put_self form]
    rfl

theorem namesChildren_filled_iff :
    NamesChildren (filled key source) children ↔ NamesChildren source children :=
  ⟨fun names => names.of_eq held?_filled_children.symm,
    fun names => names.of_eq held?_filled_children⟩

theorem Asks.filled (asks : Asks source criterion) : Asks (filled key source) criterion :=
  asks.of_eq (content?_filled nofun) (content?_filled nofun)

/-- A descriptor with a key stands for the node with this key. -/
theorem Stands.filled (stands : Stands index source node) :
    Stands index (filled key source) (node.filled key) where
  form := stands.form.filled
  index_eq := stands.index_eq
  root := stands.root
  asks above := (stands.asks above).filled
  key := stands.key.filled stands.form
  profile := by
    have same : content? (Descriptor.filled key source) .profile = content? source .profile :=
      content?_filled nofun
    rw [same]
    exact stands.profile
  children := namesChildren_filled_iff.2 stands.children

end Descriptor

open Descriptor

/-! ## Tables with keys -/

namespace Document

/-- A table with keys written into its descriptors. -/
def filledData (keys : Nat → Option String) (data : List Value) : List Value :=
  data.mapIdx fun i source => filled (keys i) source

/-- A document with keys written into its descriptors. -/
def filled (keys : Nat → Option String) (document : Document) : Document :=
  { document with data := document.data.map (filledData keys) }

variable {keys : Nat → Option String} {data : List Value} {c p i : Nat} {source : Value}
  {tree filled : Tree}

theorem getElem?_filledData_eq_some_iff :
    (filledData keys data)[i]? = some source ↔
      ∃ old, data[i]? = some old ∧ Descriptor.filled (keys i) old = source := by
  rw [filledData, List.getElem?_mapIdx, Option.map_eq_some_iff]

theorem childOf_filledData_iff : ChildOf (filledData keys data) c p ↔ ChildOf data c p := by
  constructor
  · intro isChild
    obtain ⟨source, children, here, names, declared⟩ := isChild
    obtain ⟨old, original, rfl⟩ := getElem?_filledData_eq_some_iff.1 here
    exact ⟨old, children, original, namesChildren_filled_iff.1 names, declared⟩
  · intro isChild
    obtain ⟨old, children, original, names, declared⟩ := isChild
    exact ⟨_, children, getElem?_filledData_eq_some_iff.2 ⟨old, original, rfl⟩,
      namesChildren_filled_iff.2 names, declared⟩

/-- A table stays one. -/
theorem isTable_filled (table : IsTable data) : IsTable (filledData keys data) := by
  refine .of_stands (fun empty => table.rooted (List.mapIdx_eq_nil_iff.1 empty))
    (fun i source here => ?_) (fun c p isChild => ?_) fun i below => ?_
  · obtain ⟨old, original, rfl⟩ := getElem?_filledData_eq_some_iff.1 here
    obtain ⟨node, stands⟩ := table.exists_stands original
    exact ⟨_, stands.filled⟩
  · rw [filledData, List.length_mapIdx]
    exact table.bounded c p (childOf_filledData_iff.1 isChild)
  · exact table.acyclic i (below.lift id fun c p => childOf_filledData_iff.1)

/-- The nodes of a table with keys are those of the table, with these keys. -/
theorem filledBy_of_standFor (stand : StandFor data tree.nodes.toList)
    (stand' : StandFor (filledData keys data) filled.nodes.toList) :
    tree.FilledBy keys filled := by
  have same_size : filled.nodes.size = tree.nodes.size := by
    have same_length := stand'.same_length.trans List.length_mapIdx
    rw [← stand.same_length] at same_length
    exact same_length
  refine Array.ext (same_size.trans Array.size_mapIdx.symm) fun i inFilled _ => ?_
  have inTree : i < tree.nodes.size := same_size ▸ inFilled
  obtain ⟨source, here, stands⟩ := stand.exists_source (Array.getElem?_eq_getElem inTree)
  obtain ⟨source', here', stands'⟩ := stand'.exists_source (Array.getElem?_eq_getElem inFilled)
  cases here'.symm.trans (getElem?_filledData_eq_some_iff.2 ⟨source, here, rfl⟩)
  rw [Array.getElem_mapIdx]
  exact stands'.unique stands.filled

end Document

namespace Builder

open Document

variable {builder : Builder} {document : Document} {tree : Tree}

/-- A document stays buildable with keys written into it, and the keys are all that differs between
the trees. -/
theorem exists_build_filled (keys : Nat → Option String)
    (built : (builder.build document).1 = .ok tree) (builder' : Builder) :
    ∃ filled, (builder'.build (document.filled keys)).1 = .ok filled ∧
      tree.FilledBy keys filled := by
  have represents := build_eq_ok_iff.1 built
  obtain ⟨data, here, stand⟩ := represents.data
  have here' : (document.filled keys).data = some (filledData keys data) :=
    congrArg (Option.map (filledData keys)) here
  obtain ⟨version, publishDate, -⟩ := exists_build_eq_ok_iff.1 ⟨tree, built⟩
  have buildable : (document.filled keys).Buildable :=
    ⟨version, publishDate, _, here', isTable_filled (stand.isTable tree.wellFormed)⟩
  obtain ⟨filled, built'⟩ : ∃ filled, (builder'.build (document.filled keys)).1 = .ok filled :=
    exists_build_eq_ok_iff.2 buildable
  obtain ⟨_, same, stand'⟩ := (build_eq_ok_iff.1 built').data
  cases here'.symm.trans same
  exact ⟨filled, built', filledBy_of_standFor stand stand'⟩

/-- A document whose nodes have no more than one parent each gives the same answers with the
inherited keys written out, whether keys are inherited or not. Each key comes from the nearest
ancestor with one, among those that the root reaches. -/
theorem build_filled (builder builder' : Builder) (document : Document) (tree : Tree)
    (built : (builder.build document).1 = .ok tree) (unshared : tree.Unshared) :
    (∃ keys, tree.Fills tree.Reaches keys) ∧
      ∀ keys, tree.Fills tree.Reaches keys →
        ∃ filled, (builder'.build (document.filled keys)).1 = .ok filled ∧
          ∀ source caseSensitive,
            filled.resolve ⟨caseSensitive, .explicit⟩ source =
                tree.resolve ⟨caseSensitive, .inherit⟩ source ∧
              filled.resolve ⟨caseSensitive, .inherit⟩ source =
                tree.resolve ⟨caseSensitive, .inherit⟩ source := by
  refine ⟨unshared.exists_fills, fun keys fills => ?_⟩
  obtain ⟨filled, built', filledBy⟩ := exists_build_filled keys built builder'
  refine ⟨filled, built', fun source caseSensitive => ⟨?_, ?_⟩⟩
  · exact filledBy.resolve_eq unshared fills source caseSensitive .explicit
  · exact filledBy.resolve_eq unshared fills source caseSensitive .inherit

/-! ### A node above the root -/

/-- A table in which two nodes lack a key and a node that the root does not reach names the root. -/
def crownedData : List Value :=
  [.object [("n", .array [.ofNat 1, .ofNat 2])],
    .object [("v", .string "a"), ("x", .ofNat 7)],
    .object [("m", .string "l"), ("n", .array [.ofNat 3]), ("v", .string "b")],
    .array [.string "b", .null, .null, .ofNat 8],
    .object [("m", .string "k"), ("n", .array [.ofNat 0]), ("v", .string "c")]]

/-- The document with this table. -/
def crownedDocument : Document := ⟨some (.string "1"), some (.string "d"), some crownedData⟩

/-- The tree of the document. -/
def crowned : Tree where
  version := "1"
  publishDate := "d"
  nodes := #[⟨0, .root, none, none, [1, 2]⟩, ⟨1, .literal "a", none, some 7, []⟩,
    ⟨2, .literal "b", some "l", none, [3]⟩, ⟨3, .literal "b", none, some 8, []⟩,
    ⟨4, .literal "c", some "k", none, [0]⟩]
  wellFormed :=
    { rooted := by decide
      index_eq := by decide
      root_iff := by decide
      bounded := by decide
      acyclic := Graph.acyclic_of_rank (fun i => [2, 0, 1, 0, 3].getD i 0) (by decide) }

theorem build_crowned : (build {} crownedDocument).1 = .ok crowned :=
  build_eq_ok_iff.2 (.of_decodeFrom crowned rfl)

theorem unshared_crowned : crowned.Unshared := by
  unfold Tree.Unshared
  decide

/-- A key that is written out is asked under without inheriting. -/
theorem build_filled_crowned :
    (build {} crownedDocument).1 = .ok crowned ∧ crowned.Unshared ∧
      ∃ keys filled, crowned.Fills crowned.Reaches keys ∧
        (build {} (crownedDocument.filled keys)).1 = .ok filled ∧
        (filled.resolve ⟨true, .explicit⟩ (.ofAssoc [("l", .text "b")])).path = [0, 2, 3] := by
  obtain ⟨⟨keys, fills⟩, same⟩ :=
    build_filled {} {} crownedDocument crowned build_crowned unshared_crowned
  obtain ⟨filled, built, answers⟩ := same keys fills
  refine ⟨build_crowned, unshared_crowned, keys, filled, fills, built, ?_⟩
  rw [(answers (.ofAssoc [("l", .text "b")]) true).1]
  cbv

/-- The keys that are written out if those of nodes that the root does not reach count as well. -/
def crownedKeys (i : Nat) : Option String :=
  if i = 1 then some "k" else if i = 3 then some "l" else none

theorem fills_crownedKeys : crowned.Fills (fun _ => True) crownedKeys := by
  have isChild : ∀ c p : Fin crowned.size, c ∈ crowned.graph p → crowned.graph.Child c p :=
    fun _ _ => id
  have inheritsFirst : crowned.Inherits (fun _ => True) ⟨1, by decide⟩ "k" :=
    .above (isChild _ ⟨0, by decide⟩ (by decide)) trivial rfl
      (.parent (isChild _ ⟨4, by decide⟩ (by decide)) trivial rfl)
  have inheritsThird : crowned.Inherits (fun _ => True) ⟨3, by decide⟩ "l" :=
    .parent (isChild _ ⟨2, by decide⟩ (by decide)) trivial rfl
  have belowFirst : crowned.graph.Descendant ⟨1, by decide⟩ crowned.root :=
    .single (isChild _ _ (by decide))
  have belowThird : crowned.graph.Descendant ⟨3, by decide⟩ crowned.root :=
    .tail (.single (isChild _ ⟨2, by decide⟩ (by decide))) (isChild _ _ (by decide))
  intro i name
  obtain ⟨i, inside⟩ := i
  have few : i < 5 := inside
  interval_cases i
  · exact ⟨nofun, fun found => absurd found.2.1 (crowned.acyclic.not_descendant _)⟩
  · exact unshared_crowned.some_eq_some_iff rfl belowFirst inheritsFirst
  · exact ⟨nofun, fun found => nomatch found.1⟩
  · exact unshared_crowned.some_eq_some_iff rfl belowThird inheritsThird
  · exact ⟨nofun, fun found => nomatch found.1⟩

/-- With the key of a node that names the root but is not reached by it written out, a document
gives other answers. -/
theorem build_filled_from_unreached :
    (build {} crownedDocument).1 = .ok crowned ∧ crowned.Unshared ∧
      crowned.Fills (fun _ => True) crownedKeys ∧
      ∃ filled, (build {} (crownedDocument.filled crownedKeys)).1 = .ok filled ∧
        filled.resolve ⟨true, .explicit⟩ (.ofAssoc [("k", .text "a")]) = ⟨some 7, [0, 1], none⟩ ∧
        crowned.resolve ⟨true, .inherit⟩ (.ofAssoc [("k", .text "a")]) =
          ⟨none, [0], some .missingEvidence⟩ := by
  obtain ⟨⟨version, publishDate, nodes, wellFormed⟩, built, filledBy⟩ :=
    exists_build_filled crownedKeys build_crowned {}
  refine ⟨build_crowned, unshared_crowned, fills_crownedKeys, _, built, ?_, by cbv⟩
  have nodes_eq : nodes = _ := filledBy
  subst nodes_eq
  cbv

end Builder

end EvidenceTree
