import EvidenceTree.Proofs.Document.Reorderings
import EvidenceTree.Proofs.Tree.Indices

/-!
# Descriptors behind a table

A table may go on behind its end. What is added there can name any node as a child, the root
included, but no node of the table names what is added, since its indices were in bounds before. So
the root reaches none of it, and all that is said of the tree from its root on stays as it was: the
vectors that its walks keep are longer, and nothing is marked in what they are longer by.

* `Tree.Begins`: the table of a tree begins like that of another one.
* `Tree.Begins.embeds`: the second tree then stands in the first one, each node under its own index.
* `Tree.Repeats`: two trees answer all questions from the root on alike.
* `Builder.build_append`: a document with more descriptors gives the same answers.
-/

namespace EvidenceTree

open Json (Value)

/-! ## Drawings of entries under the same indices -/

namespace Entry

variable {n m : Nat} {name : Fin n → Fin m} {label : Fin n → String} {label' : Fin m → String}

mutual

/-- Entries are drawn alike under names that keep index and label. -/
theorem drawing_renamed (index : ∀ i, (name i).1 = i.1) (labels : ∀ i, label' (name i) = label i) :
    ∀ entry : Entry n, drawing label' (renamed name entry) = drawing label entry
  | own i below => by
    rw [renamed, drawing, drawing, labels, drawings_renamedBelow index labels below]
  | shared i => by
    rw [renamed, drawing, drawing, head, head, index]
  | omitted _ => rfl

theorem drawings_renamedBelow (index : ∀ i, (name i).1 = i.1)
    (labels : ∀ i, label' (name i) = label i) :
    ∀ entries : List (Entry n),
      drawings label' (renamedBelow name entries) = drawings label entries
  | [] => rfl
  | entry :: rest => by
    rw [renamedBelow, drawings, drawings, drawing_renamed index labels entry,
      drawings_renamedBelow index labels rest]

end

end Entry

/-! ## Trees that begin alike -/

namespace Tree

variable {t t' : Tree}

/-- The table of the second tree begins with that of the first one. -/
def Begins (t t' : Tree) : Prop :=
  ∀ (i : Nat) (node : Node), t.nodes[i]? = some node → t'.nodes[i]? = some node

/-- The second tree answers what the first one answers, from the root on. -/
structure Repeats (t t' : Tree) : Prop where
  resolve : ∀ options source, t'.resolve options source = t.resolve options source
  preorder : t'.preorder.map Fin.val = t.preorder.map Fin.val
  reachable : t'.reachable = t.reachable
  depth : t'.depth = t.depth
  leaves : t'.leaves.map Fin.val = t.leaves.map Fin.val
  profiles : t'.profiles = t.profiles
  outline : t'.outline.drawing t'.outlineLabel = t.outline.drawing t.outlineLabel
  outlineText : t'.outlineText = t.outlineText

namespace Begins

theorem size_le (begins : t.Begins t') : t.size ≤ t'.size := by
  by_contra shorter
  have inTable : t'.size < t.size := Nat.not_le.1 shorter
  have placed := begins t'.size _ (Array.getElem?_eq_getElem inTable)
  rw [Array.getElem?_eq_none (Nat.le_refl _)] at placed
  cases placed

/-- A node keeps its place. -/
theorem node_eq (begins : t.Begins t') (i : Fin t.size) :
    t'.node (i.castLE begins.size_le) = t.node i := by
  have placed := begins i (t.node i) (Array.getElem?_eq_getElem i.2)
  exact (Array.getElem?_eq_some_iff.1 placed).2

/-- The first tree stands in the second one, each node under its own index. -/
theorem embeds (begins : t.Begins t') : t.Embeds t' (Fin.castLE begins.size_le) where
  graph :=
    { injective := Fin.castLE_injective _
      children := fun i => by
        refine List.map_injective_iff.2 Fin.val_injective ?_
        rw [map_val_graph, begins.node_eq, ← map_val_graph, List.map_map]
        rfl }
  root := rfl
  accepts i mode value := by rw [begins.node_eq]
  key i := by rw [begins.node_eq]
  profile i := by rw [begins.node_eq]

theorem outlineLabel_eq (begins : t.Begins t') (version : t'.version = t.version)
    (publishDate : t'.publishDate = t.publishDate) (i : Fin t.size) :
    t'.outlineLabel (i.castLE begins.size_le) = t.outlineLabel i := by
  have atRoot : i.castLE begins.size_le = t'.root ↔ i = t.root := by
    rw [Fin.ext_iff, Fin.ext_iff]
    exact Iff.rfl
  unfold outlineLabel
  rw [begins.node_eq, version, publishDate]
  exact if_congr atRoot rfl rfl

/-- The longer table goes on behind the shorter one. -/
theorem exists_tail (begins : t.Begins t') : ∃ tail, t'.nodes = t.nodes ++ tail := by
  have isPrefix : t.nodes.toList <+: t'.nodes.toList := by
    rw [List.prefix_iff_getElem?]
    intro i inTable
    rw [Array.getElem?_toList]
    exact begins i _ (Array.getElem?_eq_getElem inTable)
  obtain ⟨tail, split⟩ := isPrefix
  refine ⟨tail.toArray, Array.toList_inj.1 ?_⟩
  rw [← split, Array.toList_append]

/-- Of two trees that begin alike the longer one answers what the shorter one does. -/
theorem repeats (begins : t.Begins t') (version : t'.version = t.version)
    (publishDate : t'.publishDate = t.publishDate) : t.Repeats t' := by
  have embeds := begins.embeds
  have index (i : Fin t.size) : (i.castLE begins.size_le).1 = i.1 := rfl
  have answers : t.Answers t' := embeds.answers index
  have outline : t'.outline.drawing t'.outlineLabel = t.outline.drawing t.outlineLabel := by
    rw [embeds.outline_eq]
    exact Entry.drawing_renamed index (begins.outlineLabel_eq version publishDate) t.outline
  refine
    { resolve := answers.resolve
      preorder := answers.preorder
      reachable := answers.reachable
      depth := answers.depth
      leaves := answers.leaves
      profiles := answers.profiles
      outline := outline
      outlineText := ?_ }
  unfold outlineText
  rw [← Entry.lines_drawing, ← Entry.lines_drawing, outline]

end Begins

end Tree

/-! ## Documents with more descriptors -/

namespace Document

variable {data more : List Value} {t t' : Tree}

/-- A part of a document spells one text. -/
theorem spellsPart_unique {part : Option Value} {text text' : String}
    (spells : ∃ value, part = some value ∧ SpellsPart value text)
    (spells' : ∃ value, part = some value ∧ SpellsPart value text') : text' = text := by
  have read := bind_partText?_iff.2 spells
  rw [bind_partText?_iff.2 spells'] at read
  exact Option.some.inj read

/-- The nodes of a table stay in their places when descriptors are added behind it. -/
theorem begins_of_standFor (stand : StandFor data t.nodes.toList)
    (stand' : StandFor (data ++ more) t'.nodes.toList) : t.Begins t' := by
  intro i node placed
  obtain ⟨source, here, stands⟩ := stand.exists_source placed
  have inData : i < data.length := (List.getElem?_eq_some_iff.1 here).1
  have here' : (data ++ more)[i]? = some source := by
    rw [List.getElem?_append_left inData, here]
  obtain ⟨node', placed', stands'⟩ := stand'.exists_node here'
  rw [placed', stands'.unique stands]

end Document

namespace Builder

open Document

/-- A document with more descriptors behind its table gives the same answers, whatever they are.
Only the table goes on. -/
theorem build_append (builder builder' : Builder) (version publishDate : Option Value)
    (data more : List Value) (tree tree' : Tree)
    (built : (builder.build ⟨version, publishDate, some data⟩).1 = .ok tree)
    (built' : (builder'.build ⟨version, publishDate, some (data ++ more)⟩).1 = .ok tree') :
    tree.Repeats tree' ∧ tree'.version = tree.version ∧ tree'.publishDate = tree.publishDate ∧
      ∃ tail, tree'.nodes = tree.nodes ++ tail ∧ tail.size = more.length := by
  obtain ⟨spellsVersion, spellsDate, _, ⟨⟩, stand⟩ := build_eq_ok_iff.1 built
  obtain ⟨spellsVersion', spellsDate', _, ⟨⟩, stand'⟩ := build_eq_ok_iff.1 built'
  have begins := begins_of_standFor stand stand'
  have sameVersion := spellsPart_unique spellsVersion spellsVersion'
  have sameDate := spellsPart_unique spellsDate spellsDate'
  obtain ⟨tail, split⟩ := begins.exists_tail
  refine ⟨begins.repeats sameVersion sameDate, sameVersion, sameDate, tail, split, ?_⟩
  -- there are as many nodes as descriptors in both tables, so as many are added
  have sizes : tree.nodes.size + tail.size = data.length + more.length := by
    rw [← Array.size_append, ← split, ← List.length_append]
    exact stand'.same_length
  have size_eq : tree.nodes.size = data.length := stand.same_length
  omega

/-! ### A node above the root -/

/-- A descriptor that names the root and another node as children. -/
def aboveData : List Value :=
  [.object [("n", .array [.ofNat 0, .ofNat 2]), ("v", .string "c"), ("x", .ofNat 9)]]

/-- The tree of a chain with this descriptor behind its table. -/
def underChain : Tree where
  version := "1"
  publishDate := "d"
  nodes := #[⟨0, .root, none, none, [1]⟩, ⟨1, .literal "a", some "k", none, [2]⟩,
    ⟨2, .literal "b", some "l", some 7, []⟩, ⟨3, .literal "c", none, some 9, [0, 2]⟩]
  wellFormed :=
    { rooted := by decide
      index_eq := by decide
      root_iff := by decide
      bounded := by decide
      acyclic := Graph.acyclic_of_rank (fun i => [2, 1, 0, 3].getD i 0) (by decide) }

/-- A node that has the root below it changes no answer. -/
theorem build_append_chain :
    (build {} ⟨some (.string "1"), some (.string "d"), some chainData⟩).1 = .ok chain ∧
      (build {} ⟨some (.string "1"), some (.string "d"), some (chainData ++ aboveData)⟩).1 =
        .ok underChain ∧
      chain.Repeats underChain ∧ underChain.size = 4 ∧ underChain.profiles = [7] ∧
      (underChain.resolve {} (.ofAssoc [("k", .text "a"), ("l", .text "b")])).path = [0, 1, 2] := by
  have built : (build {} ⟨some (.string "1"), some (.string "d"), some chainData⟩).1 =
      .ok chain := build_eq_ok_iff.2 (.of_decodeFrom chain rfl)
  have built' : (build {} ⟨some (.string "1"), some (.string "d"),
      some (chainData ++ aboveData)⟩).1 = .ok underChain :=
    build_eq_ok_iff.2 (.of_decodeFrom underChain rfl)
  obtain ⟨repeats, -, -, tail, split, added⟩ :=
    build_append {} {} _ _ chainData aboveData chain underChain built built'
  have size_eq : underChain.size = 4 := by
    unfold Tree.size
    rw [split, Array.size_append, added]
    rfl
  refine ⟨built, built', repeats, size_eq, ?_, ?_⟩
  · rw [repeats.profiles]
    cbv
  · rw [repeats.resolve]
    cbv

end Builder

end EvidenceTree
