import EvidenceTree.Proofs.Document.Descriptors
import EvidenceTree.Proofs.Graph.Cycles

/-!
# Which documents are built

What makes a document buildable is stated of its JSON alone: its parts, its descriptors and the
graph that the descriptors name. The tree of a document is stated node by node, each by the
descriptor that it stands for.

* `Document.IsTable`: the descriptors make a table, wherever the root leads.
* `Document.Represents`: a tree has one node for each descriptor, the one that it stands for.
* `Builder.build_decides`: a document is built exactly where it is buildable, and into the one tree
  that it represents.
-/

namespace EvidenceTree

open Descriptor
open Json (Value)

namespace Document

/-! ## What a document has to say -/

/-- The text of a version or a publication date: its own, or a number as it is written. -/
inductive SpellsPart : Value → String → Prop
  | text {s : String} : SpellsPart (.string s) s
  | number {n : Json.Number} : SpellsPart (.number n) n.text

/-- `c` is one of the children that the descriptor at `p` names. -/
def ChildOf (data : List Value) (c p : Nat) : Prop :=
  ∃ source children, data[p]? = some source ∧ NamesChildren source children ∧ c ∈ children

/-- The descriptors make a table. The root's has no question to ask, and no part of the table is
left out for not being reached. -/
structure IsTable (data : List Value) : Prop where
  rooted : data ≠ []
  form : ∀ source ∈ data, HasForm source
  key : ∀ source ∈ data, ∃ key, NamesKey source key
  children : ∀ source ∈ data, ∃ children, NamesChildren source children
  asks : ∀ i source, i ≠ 0 → data[i]? = some source → ∃ criterion, Asks source criterion
  bounded : ∀ c p, ChildOf data c p → c < data.length
  acyclic : ∀ i, ¬ Relation.TransGen (ChildOf data) i i

/-- A document that a tree is built from. -/
structure Buildable (document : Document) : Prop where
  version : ∃ value text, document.version = some value ∧ SpellsPart value text
  publishDate : ∃ value text, document.publishDate = some value ∧ SpellsPart value text
  data : ∃ data, document.data = some data ∧ IsTable data

/-- The nodes are as many as the descriptors, and each descriptor stands for the node in its
place. -/
structure StandFor (data : List Value) (nodes : List Node) : Prop where
  same_length : nodes.length = data.length
  each : ∀ i source, data[i]? = some source → ∃ node, nodes[i]? = some node ∧ Stands i source node

/-- The tree is the one that a document spells. -/
structure Represents (document : Document) (tree : Tree) : Prop where
  version : ∃ value, document.version = some value ∧ SpellsPart value tree.version
  publishDate : ∃ value, document.publishDate = some value ∧ SpellsPart value tree.publishDate
  data : ∃ data, document.data = some data ∧ StandFor data tree.nodes.toList

theorem partText?_iff {value : Value} {text : String} :
    partText? value = some text ↔ SpellsPart value text := by
  constructor
  · intro run
    unfold partText? at run
    split at run
    · cases run
      exact .text
    · cases run
      exact .number
    · cases run
  · intro spells
    cases spells <;> rfl

theorem bind_partText?_iff {part : Option Value} {text : String} :
    part.bind partText? = some text ↔ ∃ value, part = some value ∧ SpellsPart value text := by
  rw [Option.bind_eq_some_iff]
  exact exists_congr fun value => and_congr_right fun _ => partText?_iff

/-! ## The graph of a table -/

section

variable {data : List Value} {nodes : Array Node} {c p d a : Nat}
  {bounded : ∀ i (h : i < nodes.size), ∀ c ∈ nodes[i].children, c < nodes.size}

theorem childGraph_child_iff {hc : c < nodes.size} {hp : p < nodes.size} :
    (childGraph nodes bounded).Child ⟨c, hc⟩ ⟨p, hp⟩ ↔ c ∈ nodes[p].children := by
  unfold Graph.Child childGraph
  rw [List.mem_pmap]
  constructor
  · intro isChild
    rcases isChild with ⟨child, declared, same⟩
    cases same
    exact declared
  · intro declared
    exact ⟨c, declared, rfl⟩

theorem StandFor.exists_node {source : Value} (stand : StandFor data nodes.toList)
    (here : data[p]? = some source) : ∃ node, nodes[p]? = some node ∧ Stands p source node := by
  rw [← Array.getElem?_toList]
  exact stand.each p source here

theorem StandFor.exists_source {node : Node} (stand : StandFor data nodes.toList)
    (placed : nodes[p]? = some node) : ∃ source, data[p]? = some source ∧ Stands p source node := by
  obtain ⟨h, -⟩ := Array.getElem?_eq_some_iff.1 placed
  have inData : p < data.length := by
    rw [← stand.same_length]
    exact h
  have here : data[p]? = some data[p] := List.getElem?_eq_getElem inData
  obtain ⟨_, placed', stands⟩ := stand.exists_node here
  cases placed.symm.trans placed'
  exact ⟨data[p], here, stands⟩

/-- What the descriptors name are the children of the nodes that they stand for. -/
theorem StandFor.childOf_iff (stand : StandFor data nodes.toList) :
    ChildOf data c p ↔ ∃ h : p < nodes.size, c ∈ nodes[p].children := by
  constructor
  · intro isChild
    rcases isChild with ⟨source, children, here, names, declared⟩
    obtain ⟨node, placed, stands⟩ := stand.exists_node here
    obtain ⟨h, rfl⟩ := Array.getElem?_eq_some_iff.1 placed
    exact ⟨h, stands.children.unique names ▸ declared⟩
  · intro named
    rcases named with ⟨h, declared⟩
    obtain ⟨source, here, stands⟩ := stand.exists_source (Array.getElem?_eq_getElem h)
    exact ⟨source, nodes[p].children, here, stands.children, declared⟩

theorem StandFor.child_iff (stand : StandFor data nodes.toList) {c p : Fin nodes.size} :
    (childGraph nodes bounded).Child c p ↔ ChildOf data c p := by
  rw [childGraph_child_iff, stand.childOf_iff]
  exact ⟨fun declared => ⟨p.2, declared⟩, fun ⟨_, declared⟩ => declared⟩

/-- A walk along what the descriptors name stays among the nodes. -/
theorem StandFor.descendant_of_transGen (stand : StandFor data nodes.toList)
    (bounded : ∀ i (h : i < nodes.size), ∀ c ∈ nodes[i].children, c < nodes.size)
    (below : Relation.TransGen (ChildOf data) d a) :
    ∃ (hd : d < nodes.size) (ha : a < nodes.size),
      (childGraph nodes bounded).Descendant ⟨d, hd⟩ ⟨a, ha⟩ := by
  have placed {c p : Nat} (isChild : ChildOf data c p) :
      ∃ (hc : c < nodes.size) (hp : p < nodes.size),
        (childGraph nodes bounded).Child ⟨c, hc⟩ ⟨p, hp⟩ := by
    obtain ⟨hp, declared⟩ := stand.childOf_iff.1 isChild
    exact ⟨bounded p hp c declared, hp, childGraph_child_iff.2 declared⟩
  -- an index is in bounds at both ends of each step, so the steps of the walk are steps of the
  -- graph
  induction below with
  | single isChild =>
    obtain ⟨hd, ha, isChild⟩ := placed isChild
    exact ⟨hd, ha, .single isChild⟩
  | tail _ isChild ih =>
    obtain ⟨hd, _, below⟩ := ih
    obtain ⟨_, ha, isChild⟩ := placed isChild
    exact ⟨hd, ha, below.tail isChild⟩

/-- The nodes make an acyclic graph exactly where what the descriptors name never leads back. -/
theorem StandFor.acyclic_iff (stand : StandFor data nodes.toList) :
    (childGraph nodes bounded).Acyclic ↔ ∀ i, ¬ Relation.TransGen (ChildOf data) i i := by
  rw [Graph.acyclic_iff]
  constructor
  · intro noneBelow i below
    obtain ⟨h, _, below⟩ := stand.descendant_of_transGen bounded below
    exact noneBelow ⟨i, h⟩ below
  · intro noneBelow i below
    exact noneBelow i.1 (below.lift Fin.val fun _ _ => stand.child_iff.1)

end

/-! ## The nodes of a table -/

section

variable {data : List Value} {nodes : List Node} {size index : Nat}

theorem decodeFrom_eq_ok_iff :
    decodeFrom size index data = .ok nodes ↔
      nodes.length = data.length ∧
        ∀ i source, data[i]? = some source →
          ∃ node, nodes[i]? = some node ∧ decodeNode size (index + i) source = .ok node := by
  induction data generalizing index nodes with
  | nil =>
    constructor
    · intro run
      cases run
      exact ⟨rfl, nofun⟩
    · intro same
      rcases same with ⟨same_length, -⟩
      rw [List.eq_nil_of_length_eq_zero same_length]
      rfl
  | cons source rest ih =>
    have shift (i : Nat) : index + 1 + i = index + (i + 1) := Nat.add_right_comm index 1 i
    unfold decodeFrom
    constructor
    · intro run
      split at run
      · cases run
      · rename_i node first
        cases others : decodeFrom size (index + 1) rest with
        | error fault =>
          rw [others] at run
          cases run
        | ok tail =>
          rw [others] at run
          cases run
          obtain ⟨same_length, each⟩ := ih.1 others
          refine ⟨congrArg (· + 1) same_length, fun i other here => ?_⟩
          cases i with
          | zero =>
            cases here
            exact ⟨node, rfl, first⟩
          | succ i =>
            rw [← shift]
            exact each i other here
    · intro placed
      rcases placed with ⟨same_length, each⟩
      obtain ⟨node, placed, first⟩ := each 0 source rfl
      cases nodes with
      | nil => cases placed
      | cons head tail =>
        cases placed
        have others : decodeFrom size (index + 1) rest = .ok tail := by
          refine ih.2 ⟨Nat.succ.inj same_length, fun i other here => ?_⟩
          rw [shift]
          exact each (i + 1) other here
        rw [Nat.add_zero] at first
        rw [first]
        dsimp only
        rw [others]
        rfl

/-- Descriptors that can each be decoded can all be decoded. -/
theorem exists_decodeFrom
    (each : ∀ i source, data[i]? = some source →
      ∃ node, decodeNode size (index + i) source = .ok node) :
    ∃ nodes, decodeFrom size index data = .ok nodes := by
  induction data generalizing index with
  | nil => exact ⟨[], rfl⟩
  | cons source rest ih =>
    obtain ⟨node, first⟩ := each 0 source rfl
    obtain ⟨tail, others⟩ := @ih (index + 1) fun i other here => by
      rw [Nat.add_right_comm]
      exact each (i + 1) other here
    refine ⟨node :: tail, ?_⟩
    unfold decodeFrom
    rw [Nat.add_zero] at first
    rw [first]
    dsimp only
    rw [others]
    rfl

/-- The nodes of a table are those that the descriptors stand for, with children in bounds. -/
theorem decodeFrom_zero_eq_ok_iff :
    decodeFrom size 0 data = .ok nodes ↔
      StandFor data nodes ∧ ∀ node ∈ nodes, ∀ c ∈ node.children, c < size := by
  rw [decodeFrom_eq_ok_iff]
  constructor
  · intro decoded
    rcases decoded with ⟨same_length, each⟩
    refine ⟨⟨same_length, fun i source here => ?_⟩, fun node inNodes => ?_⟩
    · obtain ⟨node, placed, decoded⟩ := each i source here
      rw [Nat.zero_add] at decoded
      exact ⟨node, placed, (decodeNode_eq_ok_iff.1 decoded).1⟩
    · obtain ⟨i, h, rfl⟩ := List.mem_iff_getElem.1 inNodes
      have here : data[i]? = some data[i] := List.getElem?_eq_getElem (same_length ▸ h)
      obtain ⟨node, placed, decoded⟩ := each i data[i] here
      obtain ⟨_, rfl⟩ := List.getElem?_eq_some_iff.1 placed
      exact (decodeNode_eq_ok_iff.1 decoded).2
  · intro sound
    rcases sound with ⟨stand, bounded⟩
    refine ⟨stand.same_length, fun i source here => ?_⟩
    obtain ⟨node, placed, stands⟩ := stand.each i source here
    rw [Nat.zero_add]
    exact ⟨node, placed,
      decodeNode_eq_ok_iff.2 ⟨stands, bounded node (List.mem_of_getElem? placed)⟩⟩

end

/-! ## The tree of a document -/

/-- Each descriptor of a table stands for a node. -/
theorem IsTable.exists_stands {data : List Value} {i : Nat} {source : Value} (table : IsTable data)
    (here : data[i]? = some source) : ∃ node, Stands i source node := by
  have inData : source ∈ data := List.mem_of_getElem? here
  exact exists_stands_iff.2 ⟨table.form source inData, table.key source inData,
    table.children source inData, fun above => table.asks i source above here⟩

/-- Descriptors make a table if each of them stands for a node and what they name is in bounds and
leads nowhere back. -/
theorem IsTable.of_stands {data : List Value} (rooted : data ≠ [])
    (stood : ∀ i source, data[i]? = some source → ∃ node, Stands i source node)
    (bounded : ∀ c p, ChildOf data c p → c < data.length)
    (acyclic : ∀ i, ¬ Relation.TransGen (ChildOf data) i i) : IsTable data := by
  have stoodFor (source : Value) (inData : source ∈ data) : ∃ i node, Stands i source node := by
    obtain ⟨i, here⟩ := List.mem_iff_getElem?.1 inData
    exact ⟨i, stood i source here⟩
  refine
    { rooted := rooted
      form := fun source inData => ?_
      key := fun source inData => ?_
      children := fun source inData => ?_
      asks := fun i source above here => ?_
      bounded := bounded
      acyclic := acyclic }
  · obtain ⟨i, node, stands⟩ := stoodFor source inData
    exact stands.form
  · obtain ⟨i, node, stands⟩ := stoodFor source inData
    exact ⟨node.key, stands.key⟩
  · obtain ⟨i, node, stands⟩ := stoodFor source inData
    exact ⟨node.children, stands.children⟩
  · obtain ⟨node, stands⟩ := stood i source here
    exact ⟨node.criterion, stands.asks above⟩

/-- A table of descriptors has nodes, and they are decoded. -/
theorem IsTable.decodes {data : List Value} (table : IsTable data) :
    ∃ nodes, decodeFrom data.length 0 data = .ok nodes := by
  refine exists_decodeFrom fun i source here => ?_
  rw [Nat.zero_add]
  obtain ⟨node, stands⟩ := table.exists_stands here
  exact ⟨node, decodeNode_eq_ok_iff.2 ⟨stands, fun c declared =>
    table.bounded c i ⟨source, node.children, here, stands.children, declared⟩⟩⟩

/-- The descriptors of the nodes of a tree make a table. -/
theorem StandFor.isTable {data : List Value} {nodes : Array Node}
    (stand : StandFor data nodes.toList) (wellFormed : WellFormed nodes) : IsTable data := by
  refine .of_stands (fun empty => ?_) (fun i source here => ?_) (fun c p isChild => ?_)
    (stand.acyclic_iff.1 wellFormed.acyclic)
  · subst empty
    exact wellFormed.rooted.ne' stand.same_length
  · obtain ⟨node, -, stands⟩ := stand.each i source here
    exact ⟨node, stands⟩
  · obtain ⟨h, declared⟩ := stand.childOf_iff.1 isChild
    rw [← stand.same_length]
    exact wellFormed.bounded p h c declared

/-- A tree is represented by the texts of its parts and the descriptors that its nodes are decoded
from. -/
theorem Represents.of_decodeFrom {data : List Value} (tree : Tree)
    (decoded : decodeFrom data.length 0 data = .ok tree.nodes.toList) :
    Represents ⟨some (.string tree.version), some (.string tree.publishDate), some data⟩ tree where
  version := ⟨_, rfl, .text⟩
  publishDate := ⟨_, rfl, .text⟩
  data := ⟨data, rfl, (decodeFrom_zero_eq_ok_iff.1 decoded).1⟩

/-- A document is buildable exactly where a tree represents it. -/
theorem buildable_iff {document : Document} :
    document.Buildable ↔ ∃ tree, document.Represents tree := by
  constructor
  · intro buildable
    rcases buildable with ⟨⟨version, text, versionHere, versionSpelt⟩, ⟨publishDate, date,
      dateHere, dateSpelt⟩, data, dataHere, table⟩
    obtain ⟨nodes, decoded⟩ := table.decodes
    obtain ⟨stand, -⟩ := decodeFrom_zero_eq_ok_iff.1 decoded
    have sound : SoundFrom nodes.toArray.size 0 nodes.toArray.toList := by
      simpa [stand.same_length] using (soundFrom_of_decodeFrom decoded).2
    have rooted : 0 < nodes.toArray.size := by
      simpa [stand.same_length] using List.length_pos_iff.2 table.rooted
    have acyclic : (childGraph nodes.toArray (bounded_of_soundFrom sound)).Acyclic :=
      StandFor.acyclic_iff stand |>.2 table.acyclic
    exact ⟨⟨text, date, nodes.toArray, wellFormed_of_soundFrom rooted sound acyclic⟩,
      ⟨version, versionHere, versionSpelt⟩, ⟨publishDate, dateHere, dateSpelt⟩, data, dataHere,
      stand⟩
  · intro represented
    rcases represented with ⟨tree, ⟨version, versionHere, versionSpelt⟩, ⟨publishDate, dateHere,
      dateSpelt⟩, data, dataHere, stand⟩
    exact ⟨⟨version, _, versionHere, versionSpelt⟩, ⟨publishDate, _, dateHere, dateSpelt⟩, data,
      dataHere, stand.isTable tree.wellFormed⟩

end Document

namespace Builder

open Document

variable {builder : Builder} {document : Document} {version publishDate : String}
  {nodes : Array Node} {data : List Value} {tree : Tree}

theorem link_eq_ok_iff {rooted : 0 < nodes.size} {sound : SoundFrom nodes.size 0 nodes.toList} :
    (builder.link version publishDate nodes rooted sound).1 = .ok tree ↔
      tree.version = version ∧ tree.publishDate = publishDate ∧ tree.nodes = nodes := by
  unfold link
  dsimp only
  constructor
  · intro run
    cases checked : (builder.checkAcyclic (childGraph nodes (bounded_of_soundFrom sound))).1 with
    | error fault =>
      rw [checked] at run
      cases run
    | ok acyclic =>
      rw [checked] at run
      cases run
      exact ⟨rfl, rfl, rfl⟩
  · obtain ⟨version, publishDate, nodes, wellFormed⟩ := tree
    intro same
    rcases same with ⟨rfl, rfl, rfl⟩
    -- the table is that of a tree, so there is no cycle for the check to find
    have isOk : (builder.checkAcyclic (childGraph nodes (bounded_of_soundFrom sound))).1.isOk := by
      rw [isOk_checkAcyclic_iff, Graph.closing_searchAll_eq_none_iff, ← Graph.acyclic_iff]
      exact wellFormed.acyclic
    cases checked : (builder.checkAcyclic (childGraph nodes (bounded_of_soundFrom sound))).1 with
    | error fault =>
      rw [checked] at isOk
      cases isOk
    | ok acyclic => rfl

theorem assemble_eq_ok_iff {rooted : 0 < data.length} :
    (builder.assemble version publishDate data rooted).1 = .ok tree ↔
      tree.version = version ∧ tree.publishDate = publishDate ∧
        StandFor data tree.nodes.toList := by
  unfold assemble
  constructor
  · intro run
    split at run
    · cases run
    · rename_i nodes decoded
      obtain ⟨version_eq, publishDate_eq, nodes_eq⟩ := link_eq_ok_iff.1 run
      refine ⟨version_eq, publishDate_eq, ?_⟩
      rw [nodes_eq]
      exact (decodeFrom_zero_eq_ok_iff.1 decoded).1
  · intro stands
    rcases stands with ⟨version_eq, publishDate_eq, stand⟩
    have bounded : ∀ node ∈ tree.nodes.toList, ∀ c ∈ node.children, c < data.length := by
      intro node inNodes
      obtain ⟨i, h, rfl⟩ := List.mem_iff_getElem.1 inNodes
      rw [← stand.same_length]
      exact tree.wellFormed.bounded i h
    have made : decodeFrom data.length 0 data = .ok tree.nodes.toList :=
      decodeFrom_zero_eq_ok_iff.2 ⟨stand, bounded⟩
    split
    · rename_i fault decoded
      cases made.symm.trans decoded
    · rename_i nodes decoded
      cases made.symm.trans decoded
      exact link_eq_ok_iff.2 ⟨version_eq, publishDate_eq, rfl⟩

/-- A build answers with a tree exactly where it is the one that the document represents. -/
theorem build_eq_ok_iff :
    (builder.build document).1 = .ok tree ↔ document.Represents tree := by
  unfold build
  constructor
  · intro run
    split at run
    · cases run
    · rename_i version versionRead
      split at run
      · cases run
      · rename_i publishDate dateRead
        split at run
        · cases run
        · rename_i data dataHere
          split at run
          · obtain ⟨rfl, rfl, stand⟩ := assemble_eq_ok_iff.1 run
            exact ⟨bind_partText?_iff.1 versionRead, bind_partText?_iff.1 dateRead, data, dataHere,
              stand⟩
          · cases run
  · intro represents
    rcases represents with ⟨version, publishDate, data, dataHere, stand⟩
    have rooted : 0 < data.length := by
      rw [← stand.same_length]
      exact tree.wellFormed.rooted
    rw [bind_partText?_iff.2 version]
    dsimp only
    rw [bind_partText?_iff.2 publishDate]
    dsimp only
    rw [dataHere]
    dsimp only
    rw [dif_pos rooted]
    exact assemble_eq_ok_iff.2 ⟨rfl, rfl, stand⟩

theorem exists_build_eq_ok_iff :
    (∃ tree, (builder.build document).1 = .ok tree) ↔ document.Buildable :=
  (exists_congr fun _ => build_eq_ok_iff).trans buildable_iff.symm

/-- A document is built exactly where it is buildable, and into the one tree that it represents,
whatever the builder built before. -/
theorem build_decides (builder : Builder) (document : Document) :
    ((∃ tree, (builder.build document).1 = .ok tree) ↔ document.Buildable) ∧
      ∀ tree, (builder.build document).1 = .ok tree ↔ document.Represents tree := by
  refine ⟨?_, fun _ => build_eq_ok_iff⟩
  rw [buildable_iff]
  exact exists_congr fun _ => build_eq_ok_iff

end Builder

end EvidenceTree
