import EvidenceTree.Proofs.Document.Reorderings
import EvidenceTree.Proofs.Resolution.LaterChildren

/-!
# Descriptors that name further children

A descriptor may name further children behind those it names, and say the same otherwise. What they
are does not matter: they may be shared with the rest of the table, or be named already. Among the
answers of the tree only those change that end at the node of this descriptor, and their paths only
go on.

* `Descriptor.Lengthens`: a descriptor that names further children and says the same otherwise.
* `Document.LengthenedAt`: a table that differs from another one in such a descriptor alone.
* `Builder.build_lengthened`: the answers of the two trees.
-/

namespace EvidenceTree

open Json (Value)

namespace Descriptor

/-- The second descriptor names further children behind those that the first one names, and says the
same in all other fields. -/
structure Lengthens (more : List Nat) (source source' : Value) : Prop where
  content : ∀ field, field ≠ .children → content? source' field = content? source field
  children : ∀ children, NamesChildren source children → NamesChildren source' (children ++ more)

/-- Such a descriptor stands for the node with these children. -/
theorem Stands.lengthened {index : Nat} {source source' : Value} {node node' : Node}
    {more : List Nat} (stands : Stands index source node)
    (stands' : Stands index source' node') (lengthens : Lengthens more source source') :
    node' = node.lengthened more := by
  refine stands'.unique
    { form := stands'.form
      index_eq := stands.index_eq
      root := stands.root
      asks := fun above => (stands.asks above).of_eq (lengthens.content .literal nofun)
        (lengthens.content .range nofun)
      key := stands.key.of_eq (lengthens.content .key nofun)
      profile := ?_
      children := lengthens.children node.children stands.children }
  rw [lengthens.content .profile nofun]
  exact stands.profile

/-- Indices that are written behind those of a list, or into a list of their own where there is
none, are further children. -/
theorem lengthens_put {source : Value} {items : List Value} {more : List Nat}
    (form : HasForm source)
    (held : (held? source .children).getD (.array []) = .array items)
    (small : ∀ c ∈ more, c < 2 ^ 64) :
    Lengthens more source (put .children (.array (items ++ more.map .ofNat)) source) where
  content field other := content?_put other
  children children names := by
    have written : List.Forall₂ SpellsIndex (more.map .ofNat) more :=
      List.forall₂_map_left_iff.2 (List.forall₂_same.2 fun c isNew =>
        spellsIndex_ofNat (small c isNew))
    refine .list (held?_put_self form) ?_
    cases names with
    | none absent =>
      rw [absent] at held
      cases held
      exact written
    | list here each =>
      rw [here] at held
      cases held
      exact List.rel_append each written

end Descriptor

open Descriptor

namespace Document

variable {data data' : List Value} {p : Nat} {more : List Nat} {t t' : Tree}

/-- The second table differs from the first one in a descriptor alone, which names further
children. -/
structure LengthenedAt (p : Nat) (more : List Nat) (data data' : List Value) : Prop where
  same_length : data'.length = data.length
  elsewhere : ∀ i : Nat, i ≠ p → data'[i]? = data[i]?
  here : ∀ source, data[p]? = some source → ∃ source', data'[p]? = some source' ∧
    Lengthens more source source'

/-- The trees of two such tables differ in the children of one node alone. -/
theorem LengthenedAt.of_standFor (lengthened : LengthenedAt p more data data')
    (stand : StandFor data t.nodes.toList) (stand' : StandFor data' t'.nodes.toList) :
    t.LengthenedAt p more t' := by
  have same_size : t'.nodes.size = t.nodes.size := by
    have lengths : t'.nodes.toList.length = t.nodes.toList.length := by
      rw [stand'.same_length, lengthened.same_length, stand.same_length]
    exact lengths
  refine Array.ext (same_size.trans Array.size_modify.symm) fun i inSecond _ => ?_
  have inFirst : i < t.nodes.size := same_size ▸ inSecond
  obtain ⟨source, isSource, stands⟩ := stand.exists_source (Array.getElem?_eq_getElem inFirst)
  obtain ⟨source', isSource', stands'⟩ :=
    stand'.exists_source (Array.getElem?_eq_getElem inSecond)
  rw [Array.getElem_modify]
  by_cases same : p = i
  · subst same
    obtain ⟨_, isSource'', lengthens⟩ := lengthened.here source isSource
    cases isSource'.symm.trans isSource''
    rw [if_pos rfl]
    exact stands.lengthened stands' lengthens
  · rw [lengthened.elsewhere i (Ne.symm same), isSource] at isSource'
    cases isSource'
    rw [if_neg same]
    exact stands'.unique stands

end Document

namespace Builder

open Document

/-- Of two documents that differ in further children at the end of one list, the answers are the
same unless they end at the node with this list. There the path of the second goes on from the
first. -/
theorem build_lengthened (builder builder' : Builder) (version publishDate : Option Value)
    (data data' : List Value) (p : Nat) (more : List Nat) (tree tree' : Tree)
    (lengthened : LengthenedAt p more data data')
    (built : (builder.build ⟨version, publishDate, some data⟩).1 = .ok tree)
    (built' : (builder'.build ⟨version, publishDate, some data'⟩).1 = .ok tree')
    (options : Options) (source : Evidence.Source) :
    ((tree.resolve options source).path.getLast? ≠ some p →
      tree'.resolve options source = tree.resolve options source) ∧
    ((tree.resolve options source).path.getLast? = some p →
      (tree.resolve options source).path <+: (tree'.resolve options source).path) := by
  obtain ⟨-, -, _, ⟨⟩, stand⟩ := build_eq_ok_iff.1 built
  obtain ⟨-, -, _, ⟨⟩, stand'⟩ := build_eq_ok_iff.1 built'
  have further := lengthened.of_standFor stand stand'
  exact ⟨further.resolve_eq, fun _ => further.resolve_prefix⟩

/-! ### A child that is added -/

/-- A table whose last node is no child of any. -/
def looseData : List Value :=
  [.object [("n", .array [.ofNat 1])], .object [("m", .string "k"), ("v", .string "a")],
    .array [.string "b", .null, .string "l", .ofNat 7]]

/-- The tree of the table. -/
def loose : Tree where
  version := "1"
  publishDate := "d"
  nodes := #[⟨0, .root, none, none, [1]⟩, ⟨1, .literal "a", some "k", none, []⟩,
    ⟨2, .literal "b", some "l", some 7, []⟩]
  wellFormed :=
    { rooted := by decide
      index_eq := by decide
      root_iff := by decide
      bounded := by decide
      acyclic := Graph.acyclic_of_ascending (by decide) }

theorem lengthenedAt_looseData : LengthenedAt 1 [2] looseData chainData where
  same_length := rfl
  elsewhere i other := by
    rcases i with _ | _ | i
    · rfl
    · exact absurd rfl other
    · rfl
  here source isSource := by
    cases isSource
    have form : HasForm (.object [("m", .string "k"), ("v", .string "a")]) := .inl ⟨_, rfl⟩
    have noChildren : (held? (.object [("m", .string "k"), ("v", .string "a")]) .children).getD
        (.array []) = .array [] := rfl
    exact ⟨_, rfl, lengthens_put form noChildren (by decide)⟩

/-- Where the node is made a child of the one before it, a path to that one goes on; what ends above
stays. -/
theorem build_lengthened_loose :
    LengthenedAt 1 [2] looseData chainData ∧
      (build {} ⟨some (.string "1"), some (.string "d"), some looseData⟩).1 = .ok loose ∧
      (build {} ⟨some (.string "1"), some (.string "d"), some chainData⟩).1 = .ok chain ∧
      (loose.resolve {} (.ofAssoc [("k", .text "a"), ("l", .text "b")])).path <+:
        (chain.resolve {} (.ofAssoc [("k", .text "a"), ("l", .text "b")])).path ∧
      chain.resolve {} (.ofAssoc [("k", .text "b")]) = ⟨none, [0], some .noMatchingBranch⟩ := by
  have built : (build {} ⟨some (.string "1"), some (.string "d"), some looseData⟩).1 =
      .ok loose := build_eq_ok_iff.2 (.of_decodeFrom loose rfl)
  have built' : (build {} ⟨some (.string "1"), some (.string "d"), some chainData⟩).1 =
      .ok chain := build_eq_ok_iff.2 (.of_decodeFrom chain rfl)
  have answers := build_lengthened {} {} _ _ looseData chainData 1 [2] loose chain
    lengthenedAt_looseData built built' {}
  have ends : (loose.resolve {} (.ofAssoc [("k", .text "a"), ("l", .text "b")])).path = [0, 1] := by
    cbv
  have stays : loose.resolve {} (.ofAssoc [("k", .text "b")]) =
      ⟨none, [0], some .noMatchingBranch⟩ := by
    cbv
  refine ⟨lengthenedAt_looseData, built, built', (answers _).2 (by rw [ends]; rfl), ?_⟩
  rw [(answers _).1 (by rw [stays]; decide), stays]

end Builder

end EvidenceTree
