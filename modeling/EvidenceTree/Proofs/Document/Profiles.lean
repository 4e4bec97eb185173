import EvidenceTree.Proofs.Document.Fields
import EvidenceTree.Proofs.Document.Refusals
import EvidenceTree.Proofs.Text.Trimming

/-!
# What the profile of a descriptor decides

A profile is what its descriptor spells and nothing else: an integer of at most 32 bits, or a text
of digits. What does not spell one is no fault, so with other profiles, or none, a document is built
where it was built before and refused for the reason that it was refused for.

* `Descriptor.profileOf?_iff`: the values that spell a profile.
* `Descriptor.withProfile`: a descriptor with another profile, or none.
* `Agree`: two runs that fail for one reason or give related results.
* `Builder.build_reprofiled`: profiles have no part in the decision whether a document is built.
-/

namespace EvidenceTree

open Json (Misfit Value)

/-- Without the pairs of a key, nothing is found under it, and all that was found under others. -/
theorem Assoc.find?_filter {α : Type} (removed key : String) (assoc : Assoc α) :
    Assoc.find? key (assoc.filter fun pair => pair.1 ≠ removed) =
      if key = removed then none else Assoc.find? key assoc := by
  induction assoc with
  | nil => simp [Assoc.find?]
  | cons pair rest ih =>
    obtain ⟨k, v⟩ := pair
    by_cases isRemoved : k = removed
    · subst isRemoved
      rw [List.filter_cons_of_neg (by simp), ih, Assoc.find?]
      by_cases same : key = k
      · rw [if_pos same, if_pos same]
      · rw [if_neg same, if_neg same, if_neg (Ne.symm same)]
    · rw [List.filter_cons_of_pos (by simp [isRemoved]), Assoc.find?, Assoc.find?, ih]
      by_cases same : k = key
      · subst same
        rw [if_pos rfl, if_neg isRemoved, if_pos rfl]
      · rw [if_neg same, if_neg same]

namespace Descriptor

variable {source source' value : Value} {profile : ProfileId} {field : Field}

/-! ## Profiles -/

/-- A value spells a profile: it is the integer, or a text of digits with or without a plus sign in
front, blank characters around it set aside. -/
inductive SpellsProfile : Value → ProfileId → Prop
  | integer {n : Int} {bounded : -(2 ^ 63) ≤ n ∧ n < 2 ^ 64} {profile : ProfileId} :
      n = profile.toNat → SpellsProfile (.number (.integer n bounded)) profile
  | text {s : String} {before digits after : List Char} {plus : Bool} {profile : ProfileId} :
      s.toList = before ++ (((if plus then ['+'] else []) ++ digits) ++ after) →
      (∀ c ∈ before, Text.isBlank c = true) → (∀ c ∈ after, Text.isBlank c = true) →
      IsDigits digits → Nat.ofDigitChars 10 digits 0 = profile.toNat →
      SpellsProfile (.string s) profile

theorem profileOfNat?_eq_some_iff {n : Nat} :
    profileOfNat? n = some profile ↔ n = profile.toNat := by
  unfold profileOfNat?
  constructor
  · intro run
    split at run
    · rename_i small
      cases run
      exact (UInt32.toNat_ofNat_of_lt' small).symm
    · cases run
  · rintro rfl
    rw [if_pos profile.toNat_lt, UInt32.ofNat_toNat]

theorem unsigned?_eq_some_iff {cs : List Char} {n : Nat} :
    unsigned? cs = some n ↔ ∃ (plus : Bool) (digits : List Char),
      cs = (if plus then ['+'] else []) ++ digits ∧ IsDigits digits ∧
        Nat.ofDigitChars 10 digits 0 = n := by
  have read (digits : List Char) :
      (if digits ≠ [] ∧ digits.all Char.isDigit then some (Nat.ofDigitChars 10 digits 0)
        else none) = some n ↔ IsDigits digits ∧ Nat.ofDigitChars 10 digits 0 = n := by
    rw [Option.ite_none_right_eq_some, Option.some_inj, List.all_eq_true]
    rfl
  unfold unsigned?
  dsimp only
  rw [read]
  split
  · rename_i rest
    constructor
    · intro spelt
      exact ⟨true, rest, rfl, spelt⟩
    · rintro ⟨plus, digits, split, isDigits, value⟩
      cases plus with
      | true =>
        cases split
        exact ⟨isDigits, value⟩
      | false =>
        cases split
        cases isDigits.2 '+' List.mem_cons_self
  · rename_i noPlus
    constructor
    · intro spelt
      exact ⟨false, cs, rfl, spelt⟩
    · rintro ⟨plus, digits, split, isDigits, value⟩
      cases plus with
      | true => exact absurd split (noPlus digits)
      | false =>
        cases split
        exact ⟨isDigits, value⟩

/-- A value names the profile that it spells. -/
theorem profileOf?_iff : profileOf? value = some profile ↔ SpellsProfile value profile := by
  cases value with
  | number n =>
    cases n with
    | integer n bounded =>
      unfold profileOf? Json.Number.toNat?
      dsimp only
      constructor
      · intro run
        split at run
        · rename_i natural
          have small := profileOfNat?_eq_some_iff.1 run
          exact .integer (by omega)
        · cases run
      · rintro ⟨same⟩
        rw [if_pos (by omega)]
        exact profileOfNat?_eq_some_iff.2 (by omega)
    | float x => exact ⟨nofun, nofun⟩
  | string s =>
    have trimmed : profileOf? (.string s) = some profile ↔
        unsigned? (Text.trimChars s.toList) = some profile.toNat := by
      unfold profileOf?
      dsimp only
      rw [Option.bind_eq_some_iff]
      simp only [profileOfNat?_eq_some_iff]
      exact ⟨fun ⟨n, read, same⟩ => same ▸ read, fun read => ⟨_, read, rfl⟩⟩
    rw [trimmed, unsigned?_eq_some_iff]
    constructor
    · rintro ⟨plus, digits, split, isDigits, same⟩
      obtain ⟨before, after, written, blank, blank'⟩ := Text.exists_append_trimChars s.toList
      rw [split] at written
      exact .text written blank blank' isDigits same
    · intro spells
      cases spells with
      | @text _ before digits after plus _ written blank blank' isDigits same =>
        have visible : ∀ c ∈ (if plus then ['+'] else []) ++ digits, Text.isBlank c = false := by
          refine List.forall_mem_append.2 ⟨?_, isDigits.visible⟩
          cases plus with
          | false => nofun
          | true => exact List.forall_mem_singleton.2 (by decide)
        rw [written, Text.trimChars_append blank blank' visible]
        exact ⟨plus, digits, rfl, isDigits, same⟩
  | _ => exact ⟨nofun, nofun⟩

/-! ## Descriptors that differ in the profile -/

/-- A descriptor with another profile, or none. A list that goes on behind the profile holds null
where it has none. -/
def withProfile : Option Value → Value → Value
  | some profile, source => put .profile profile source
  | none, .object members => .object (members.filter fun member => member.1 ≠ Field.profile.name)
  | none, .array items =>
    .array (if items.length ≤ 4 then items.take 3 else items.set Field.profile.place .null)
  | none, source => source

/-- Two values are both objects, or both lists that are equally long or short enough, or they are
the same. -/
inductive SameForm : Value → Value → Prop
  | object {members members' : List (String × Value)} :
      SameForm (.object members) (.object members')
  | array {items items' : List Value} :
      items'.length = items.length ∨ items'.length ≤ 5 ∧ items.length ≤ 5 →
      SameForm (.array items) (.array items')
  | same {source : Value} : SameForm source source

/-- Two descriptors of one form that say the same but for the profile. -/
structure SameButProfile (source source' : Value) : Prop where
  form : SameForm source source'
  content : ∀ other, other ≠ .profile → content? source' other = content? source other
  children : held? source' .children = held? source .children

namespace SameButProfile

theorem hasForm (same : SameButProfile source source') (form : HasForm source) :
    HasForm source' := by
  cases same.form with
  | object => exact .inl ⟨_, rfl⟩
  | array equallyLong =>
    rcases form with ⟨_, ⟨⟩⟩ | ⟨_, ⟨⟩, short⟩
    exact .inr ⟨_, rfl, by omega⟩
  | same => exact form

theorem namesKey {key : Option String} (same : SameButProfile source source')
    (names : NamesKey source key) : NamesKey source' key :=
  names.of_eq (same.content .key nofun)

theorem noKey {cause : Misfit} (same : SameButProfile source source') (noKey : NoKey source cause) :
    NoKey source' cause := by
  rcases noKey with ⟨said, noText⟩
  exact .other ((same.content .key nofun).trans said) noText

theorem noChildren {cause : Misfit} (same : SameButProfile source source')
    (noChildren : NoChildren source cause) : NoChildren source' cause := by
  rcases noChildren with ⟨held, noList⟩ | ⟨held, each, noIndex⟩
  · exact .other (same.children.trans held) noList
  · exact .item (same.children.trans held) each noIndex

/-- A misfit stays one, for the same cause. -/
theorem misfits {cause : Misfit} (same : SameButProfile source source')
    (misfits : Misfits source cause) : Misfits source' cause := by
  rcases misfits with ⟨noObject, noList⟩ | noKey | ⟨⟨key, names⟩, noChildren⟩ |
    ⟨rfl, ⟨key, names⟩, ⟨children, namesChildren⟩, long⟩
  · cases same.form with
    | object => exact absurd rfl (noObject _)
    | array => exact absurd rfl (noList _)
    | same => exact .form noObject noList
  · exact .key (same.noKey noKey)
  · exact .children ⟨key, same.namesKey names⟩ (same.noChildren noChildren)
  · have names := same.namesKey names
    have namesChildren := namesChildren.of_eq same.children
    cases same.form with
    | array equallyLong =>
      have length_eq := equallyLong.resolve_right (by omega)
      rw [← length_eq] at long ⊢
      exact .long rfl ⟨key, names⟩ ⟨children, namesChildren⟩ long
    | same => exact .long rfl ⟨key, names⟩ ⟨children, namesChildren⟩ long

/-- Of the two descriptors the same is read, but for the profile. -/
theorem ofValue_eq (same : SameButProfile source source') :
    ofValue source' =
      (ofValue source).map fun descriptor =>
        { descriptor with profile := content? source' .profile } := by
  cases read : ofValue source with
  | error cause => exact ofValue_eq_error_iff.2 (same.misfits (ofValue_eq_error_iff.1 read))
  | ok descriptor =>
    obtain ⟨form, names, namesChildren, literal, range, -⟩ := ofValue_eq_ok_iff.1 read
    exact ofValue_eq_ok_iff.2 ⟨same.hasForm form, same.namesKey names,
      namesChildren.of_eq same.children, literal.trans (same.content .literal nofun).symm,
      range.trans (same.content .range nofun).symm, rfl⟩

end SameButProfile

end Descriptor

open Descriptor

/-- A node with another profile, or none. -/
def Node.reprofiled (profile : Option ProfileId) (node : Node) : Node :=
  { node with profile := profile }

/-- A descriptor with another profile has the same node, but for the profile. -/
theorem Descriptor.node_eq_map (descriptor : Descriptor) (profile : Option Value) (index : Nat) :
    Descriptor.node index { descriptor with profile := profile } =
      (descriptor.node index).map (Node.reprofiled (profile.bind profileOf?)) := by
  have criterion : Descriptor.criterion index { descriptor with profile := profile } =
      descriptor.criterion index := rfl
  unfold Descriptor.node
  rw [criterion]
  cases descriptor.criterion index <;> rfl

/-- Of two descriptors that are the same but for the profile the same node is decoded, but for the
profile, or both are refused for the same cause. -/
theorem Descriptor.SameButProfile.decodeNode_eq {source source' : Value}
    (same : SameButProfile source source') (size index : Nat) :
    decodeNode size index source' =
      (decodeNode size index source).map
        (Node.reprofiled ((content? source' .profile).bind profileOf?)) := by
  unfold decodeNode
  rw [same.ofValue_eq]
  cases ofValue source with
  | error cause => rfl
  | ok descriptor =>
    dsimp only [Except.map]
    rw [descriptor.node_eq_map]
    cases descriptor.node index with
    | error defect => rfl
    | ok node =>
      have children (profile : Option ProfileId) :
          (Node.reprofiled profile node).children = node.children := rfl
      dsimp only [Except.map]
      rw [children]
      cases node.children.find? fun child => size ≤ child <;> rfl

/-! ## The profile that a descriptor is given -/

namespace Descriptor

variable {profile : Option Value} {source : Value}

theorem sameForm_withProfile : SameForm source (withProfile profile source) := by
  cases profile with
  | some value =>
    cases source with
    | object members => exact .object
    | array items =>
      refine .array ?_
      rw [List.length_set, List.length_append, List.length_replicate]
      have place : Field.profile.place = 3 := rfl
      omega
    | _ => exact .same
  | none =>
    cases source with
    | object members => exact .object
    | array items =>
      refine .array ?_
      split
      · rw [List.length_take]
        omega
      · rw [List.length_set]
        exact .inl rfl
    | _ => exact .same

/-- Without a profile, the other fields hold what they held. -/
theorem held?_withProfile_none {other : Field} (differ : other ≠ .profile) :
    held? (withProfile none source) other = held? source other := by
  obtain ⟨otherName, otherPlace⟩ := Field.apart differ
  cases source with
  | object members =>
    exact (Assoc.find?_filter Field.profile.name other.name members).trans (if_neg otherName)
  | array items =>
    unfold withProfile held?
    dsimp only
    split
    · rename_i short
      -- the children alone are held behind the profile
      have apart : other.place < 3 ∨ 4 ≤ other.place := by
        cases other <;> first | exact absurd rfl differ | decide
      rw [List.getElem?_take]
      split
      · rfl
      · exact (List.getElem?_eq_none (by omega)).symm
    · exact List.getElem?_set_ne otherPlace
  | _ => rfl

theorem content?_withProfile_self (form : HasForm source) :
    content? (withProfile profile source) .profile = profile.bind anyField := by
  cases profile with
  | some value =>
    unfold content?
    rw [withProfile, held?_put_self form]
  | none =>
    rcases form with ⟨members, rfl⟩ | ⟨items, rfl, -⟩
    · have absent : held? (withProfile none (.object members)) .profile = none :=
        (Assoc.find?_filter Field.profile.name Field.profile.name members).trans (if_pos rfl)
      unfold content?
      rw [absent, Option.bind_none]
    · unfold content? withProfile held?
      dsimp only
      split
      · rw [List.getElem?_take, if_neg (by decide), Option.bind_none]
      · rename_i long
        have inItems : Field.profile.place < items.length :=
          Nat.lt_of_lt_of_le (by decide) (Nat.not_le.1 long)
        rw [List.getElem?_set_self inItems]
        rfl

/-- A descriptor says the same with another profile, but for the profile. -/
theorem sameButProfile_withProfile : SameButProfile source (withProfile profile source) where
  form := sameForm_withProfile
  content other differ := by
    cases profile with
    | some value => exact content?_put differ
    | none =>
      unfold content?
      rw [held?_withProfile_none differ]
  children := by
    cases profile with
    | some value => exact held?_put_children nofun
    | none => exact held?_withProfile_none nofun

end Descriptor

/-- Null names no profile. -/
theorem Descriptor.bind_profileOf?_anyField (profile : Option Value) :
    (profile.bind anyField).bind profileOf? = profile.bind profileOf? := by
  cases profile with
  | none => rfl
  | some value => cases value <;> rfl

/-- A descriptor with another profile is decoded where it was, into a node with this profile. -/
theorem decodeNode_withProfile (profile : Option Value) (size index : Nat) (source : Value) :
    decodeNode size index (withProfile profile source) =
      (decodeNode size index source).map (Node.reprofiled (profile.bind profileOf?)) := by
  rw [sameButProfile_withProfile.decodeNode_eq]
  cases decoded : decodeNode size index source with
  | error cause => rfl
  | ok node =>
    have form := (decodeNode_eq_ok_iff.1 decoded).1.form
    rw [content?_withProfile_self form, bind_profileOf?_anyField]

/-! ## Two runs -/

/-- Two runs both fail for the same reason, or both give results, and these are related. -/
inductive Agree {α β : Type} (related : α → β → Prop) :
    Except Malformed α → Except Malformed β → Prop
  | error {fault fault' : Malformed} : fault'.reason = fault.reason →
      Agree related (.error fault) (.error fault')
  | ok {a : α} {b : β} : related a b → Agree related (.ok a) (.ok b)

/-- What is made of related results is related where it is for each two of them. -/
theorem Agree.map {α β α' β' : Type} {related : α → β → Prop} {related' : α' → β' → Prop}
    {run : Except Malformed α} {run' : Except Malformed β} {f : α → α'} {g : β → β'}
    (agree : Agree related run run') (made : ∀ a b, related a b → related' (f a) (g b)) :
    Agree related' (run.map f) (run'.map g) := by
  cases agree with
  | error same => exact .error same
  | ok same => exact .ok (made _ _ same)

/-- Graphs of equally many nodes with the same children are checked alike, whatever marks earlier
builds left. -/
theorem Builder.agree_checkAcyclic {n n' : Nat} (builder builder' : Builder) (g : Graph n)
    (g' : Graph n') (size : n' = n)
    (same : ∀ i, (g (i.cast size)).map Fin.val = (g' i).map Fin.val) :
    Agree (fun _ _ => True) (builder.checkAcyclic g).1 (builder'.checkAcyclic g').1 := by
  subst size
  have graph_eq : g = g' := funext fun i =>
    List.map_injective_iff.2 (fun _ _ => Fin.eq_of_val_eq) (same i)
  subst graph_eq
  cases checked : (builder.checkAcyclic g).1 with
  | error fault =>
    rw [checkAcyclic_eq_error_iff.2 (checkAcyclic_eq_error_iff.1 checked)]
    exact .error rfl
  | ok acyclic =>
    cases checked' : (builder'.checkAcyclic g).1 with
    | error fault =>
      rw [checkAcyclic_eq_error_iff.2 (checkAcyclic_eq_error_iff.1 checked')] at checked
      cases checked
    | ok acyclic' => exact .ok trivial

/-! ## Documents that differ in profiles -/

/-- The descriptors of a table with other profiles, or none. -/
def Document.reprofiledData (choice : Nat → Option Value) (data : List Value) : List Value :=
  data.mapIdx fun i source => withProfile (choice i) source

/-- A document whose descriptors have other profiles, or none. -/
def Document.reprofiled (choice : Nat → Option Value) (document : Document) : Document :=
  { document with data := document.data.map (reprofiledData choice) }

/-- The nodes of a table with other profiles, or none. -/
def reprofiledNodes (choice : Nat → Option Value) (nodes : List Node) : List Node :=
  nodes.mapIdx fun i node => node.reprofiled ((choice i).bind profileOf?)

/-- Two trees differ in the profiles of their nodes alone; those of the second one are chosen. -/
structure Tree.Reprofiled (choice : Nat → Option Value) (tree tree' : Tree) : Prop where
  version : tree'.version = tree.version
  publishDate : tree'.publishDate = tree.publishDate
  nodes : tree'.nodes.toList = reprofiledNodes choice tree.nodes.toList

open Document

/-- Descriptors with other profiles are decoded where they were, but for the profiles, or refused
for the same reason. -/
theorem agree_decodeFrom (choice : Nat → Option Value) (size index : Nat) (data : List Value) :
    Agree (fun nodes nodes' => nodes' = reprofiledNodes choice nodes) (decodeFrom size index data)
      (decodeFrom size index (reprofiledData choice data)) := by
  induction data generalizing index choice with
  | nil => exact .ok rfl
  | cons source rest ih =>
    have split : reprofiledData choice (source :: rest) =
        withProfile (choice 0) source :: reprofiledData (fun i => choice (i + 1)) rest :=
      List.mapIdx_cons
    rw [split]
    unfold decodeFrom
    rw [decodeNode_withProfile]
    cases decodeNode size index source with
    | error cause => exact .error rfl
    | ok node =>
      refine (ih (fun i => choice (i + 1)) (index + 1)).map ?_
      rintro nodes _ rfl
      unfold reprofiledNodes
      rw [List.mapIdx_cons]

namespace Builder

variable {version publishDate : String} {choice : Nat → Option Value} {nodes nodes' : Array Node}
  {data : List Value}

theorem map_val_childGraph
    {bounded : ∀ i (h : i < nodes.size), ∀ c ∈ nodes[i].children, c < nodes.size}
    (i : Nat) (h : i < nodes.size) :
    (childGraph nodes bounded ⟨i, h⟩).map Fin.val = nodes[i].children := by
  simp [childGraph, List.map_pmap]

theorem children_eq_of_reprofiledNodes (same : nodes'.toList = reprofiledNodes choice nodes.toList)
    (i : Nat) (h : i < nodes.size) (h' : i < nodes'.size) :
    nodes[i].children = nodes'[i].children := by
  have here : nodes'[i]? = some (nodes[i].reprofiled ((choice i).bind profileOf?)) := by
    rw [← Array.getElem?_toList, same, reprofiledNodes, List.getElem?_mapIdx,
      Array.getElem?_toList, Array.getElem?_eq_getElem h]
    rfl
  rw [Array.getElem?_eq_getElem h'] at here
  rw [Option.some.inj here]
  rfl

/-- Nodes that differ in their profiles alone are linked to trees that do, or refused for the same
reason. -/
theorem agree_link (builder builder' : Builder)
    (same : nodes'.toList = reprofiledNodes choice nodes.toList) {rooted : 0 < nodes.size}
    {sound : SoundFrom nodes.size 0 nodes.toList} {rooted' : 0 < nodes'.size}
    {sound' : SoundFrom nodes'.size 0 nodes'.toList} :
    Agree (Tree.Reprofiled choice) (builder.link version publishDate nodes rooted sound).1
      (builder'.link version publishDate nodes' rooted' sound').1 := by
  have size : nodes'.size = nodes.size := by
    have same_length := congrArg List.length same
    rw [reprofiledNodes, List.length_mapIdx] at same_length
    exact same_length
  have checks := agree_checkAcyclic builder builder' (childGraph nodes (bounded_of_soundFrom sound))
    (childGraph nodes' (bounded_of_soundFrom sound')) size fun i => by
      have inNodes : i.1 < nodes.size := (i.cast size).2
      refine (map_val_childGraph i.1 inNodes).trans (Eq.trans ?_ (map_val_childGraph i.1 i.2).symm)
      exact children_eq_of_reprofiledNodes same i.1 inNodes i.2
  exact checks.map fun _ _ _ => ⟨rfl, rfl, same⟩

theorem agree_assemble (builder builder' : Builder) (rooted : 0 < data.length)
    (rooted' : 0 < (reprofiledData choice data).length) :
    Agree (Tree.Reprofiled choice) (builder.assemble version publishDate data rooted).1
      (builder'.assemble version publishDate (reprofiledData choice data) rooted').1 := by
  have length : (reprofiledData choice data).length = data.length := List.length_mapIdx
  have decodes := agree_decodeFrom choice data.length 0 data
  unfold assemble
  split
  · rename_i fault decoded
    rw [decoded] at decodes
    split
    · rename_i fault' decoded'
      rw [length] at decoded'
      rw [decoded'] at decodes
      cases decodes with
      | error same => exact .error same
    · rename_i nodes' decoded'
      rw [length] at decoded'
      rw [decoded'] at decodes
      cases decodes
  · rename_i nodes decoded
    rw [decoded] at decodes
    split
    · rename_i fault' decoded'
      rw [length] at decoded'
      rw [decoded'] at decodes
      cases decodes
    · rename_i nodes' decoded'
      rw [length] at decoded'
      rw [decoded'] at decodes
      cases decodes with
      | ok same => exact agree_link builder builder' same

/-- A document is built with other profiles where it is built, into a tree with these profiles, and
refused where it is refused, for the same reason. -/
theorem agree_build (builder builder' : Builder) (document : Document)
    (choice : Nat → Option Value) :
    Agree (Tree.Reprofiled choice) (builder.build document).1
      (builder'.build (document.reprofiled choice)).1 := by
  unfold build Document.reprofiled
  dsimp only
  cases document.version.bind partText? with
  | none => exact .error rfl
  | some version =>
    cases document.publishDate.bind partText? with
    | none => exact .error rfl
    | some publishDate =>
      cases document.data with
      | none => exact .error rfl
      | some data =>
        have length : (reprofiledData choice data).length = data.length := List.length_mapIdx
        dsimp only [Option.map]
        by_cases rooted : 0 < data.length
        · rw [dif_pos rooted, dif_pos (length ▸ rooted)]
          exact agree_assemble builder builder' rooted _
        · rw [dif_neg rooted, dif_neg (length ▸ rooted)]
          exact .error rfl

/-- Whatever profiles its descriptors are given, or none, a document is built where it was built and
refused for the reason it was refused for, and the trees differ in the profiles alone. The profile
of a node is the one that its descriptor spells. -/
theorem build_reprofiled (builder : Builder) (document : Document) :
    (∀ (builder' : Builder) (choice : Nat → Option Value),
        Agree (Tree.Reprofiled choice) (builder.build document).1
          (builder'.build (document.reprofiled choice)).1) ∧
      ∀ tree data, (builder.build document).1 = .ok tree → document.data = some data →
        ∀ (i : Nat) (source : Value), data[i]? = some source →
          ∃ node, tree.nodes[i]? = some node ∧
            ∀ profile, node.profile = some profile ↔
              ∃ value, held? source .profile = some value ∧ SpellsProfile value profile := by
  refine ⟨fun builder' choice => agree_build builder builder' document choice,
    fun tree data built here i source placed => ?_⟩
  obtain ⟨_, here', stand⟩ := (build_eq_ok_iff.1 built).data
  cases here.symm.trans here'
  obtain ⟨node, inNodes, stands⟩ := stand.exists_node placed
  refine ⟨node, inNodes, fun profile => ?_⟩
  rw [stands.profile, content?, bind_profileOf?_anyField, Option.bind_eq_some_iff]
  exact exists_congr fun value => and_congr_right fun _ => profileOf?_iff

/-- A document whose second descriptor has a profile in a text. -/
def paddedDocument : Document :=
  ⟨some (.string "1"), some (.string "d"), some
    [.object [("n", .array [.ofNat 1])], .object [("v", .string "a"), ("x", .string " +07 ")]]⟩

/-- The tree of the document. -/
def padded : Tree where
  version := "1"
  publishDate := "d"
  nodes := #[⟨0, .root, none, none, [1]⟩, ⟨1, .literal "a", none, some 7, []⟩]
  wellFormed :=
    { rooted := by decide
      index_eq := by decide
      root_iff := by decide
      bounded := by decide
      acyclic := Graph.acyclic_of_rank (fun i => [1, 0].getD i 0) (by decide) }

/-- A profile in a text counts, and the tree stays the same but for it where the descriptors have
none. -/
theorem build_reprofiled_padded :
    (build {} paddedDocument).1 = .ok padded ∧
      (∃ tree, (build {} (paddedDocument.reprofiled fun _ => none)).1 = .ok tree ∧
        Tree.Reprofiled (fun _ => none) padded tree) ∧
      ∃ node, padded.nodes[1]? = some node ∧ node.profile = some 7 := by
  have built : (build {} paddedDocument).1 = .ok padded :=
    build_eq_ok_iff.2 (.of_decodeFrom padded rfl)
  obtain ⟨agree, spelt⟩ := build_reprofiled {} paddedDocument
  have without := agree {} fun _ => none
  rw [built] at without
  obtain ⟨node, placed, profile_iff⟩ := spelt padded _ built rfl 1 _ rfl
  refine ⟨built, ?_, node, placed, (profile_iff 7).2 ⟨_, rfl, ?_⟩⟩
  · generalize (build {} (paddedDocument.reprofiled fun _ => none)).1 = run at without ⊢
    cases without with
    | ok same => exact ⟨_, rfl, same⟩
  · have blank : ∀ c ∈ [' '], Text.isBlank c = true := List.forall_mem_singleton.2 (by decide)
    exact @SpellsProfile.text " +07 " [' '] ['0', '7'] [' '] true 7 rfl blank blank (by decide) rfl

end Builder

end EvidenceTree
