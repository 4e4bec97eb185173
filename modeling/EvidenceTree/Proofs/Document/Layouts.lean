import EvidenceTree.Proofs.Json.RoundTrips
import EvidenceTree.Proofs.Json.Skipping

/-!
# How a document is written as an object

A document in the form of an object is written as members, and what it says is what its members say,
each alone: a version, a publication date, a list of descriptors, or nothing where the name is no
part's. The descriptors are items of a list, and one in the form of an object is written as members
again. Every document of this form that is read is laid out so, down to the members of its
descriptors.

* `Document.readsMembers_partReader_iff`: what the members say, one after the other.
* `Document.exists_layout`: every document of this form is laid out so.
* `Document.Layout.ofSymbols_symbols`: what is laid out without repeated names is read.
-/

namespace EvidenceTree

open Json (Fault Item Member Spells IsLocal IsBlank Finds EndsNumeral ReadsMembers Takes Value)
open Text (Read Symbol)

theorem exists_forall₂_map {α β γ : Type} {f : γ → α} {related : α → β → Prop}
    {related' : γ → β → Prop} {as : List α} {bs : List β} (all : List.Forall₂ related as bs)
    (each : ∀ a b, related a b → ∃ c, f c = a ∧ related' c b) :
    ∃ cs : List γ, cs.map f = as ∧ List.Forall₂ related' cs bs := by
  induction all with
  | nil => exact ⟨[], rfl, .nil⟩
  | cons first _ ih =>
    obtain ⟨c, rfl, holds⟩ := each _ _ first
    obtain ⟨cs, rfl, others⟩ := ih
    exact ⟨c :: cs, rfl, .cons holds others⟩

namespace Document

/-! ## What one member says -/

/-- The name of a part. -/
def Part.name : Part → String
  | version => "Version"
  | publishDate => "PublishDate"
  | data => "Data"

variable {s text rest : List Symbol} {name : String} {progress next : Progress}
  {start document : Document} {held : Assoc Document} {symbol : Symbol}

theorem ofName?_eq_some_iff {part : Part} : Part.ofName? name = some part ↔ name = part.name := by
  constructor
  · intro found
    unfold Part.ofName? at found
    split at found
    · cases found
      assumption
    · split at found
      · cases found
        assumption
      · split at found
        · cases found
          assumption
        · cases found
  · rintro rfl
    cases part <;> decide

/-- The document that says no more than the member of a name does. -/
def readAlone (name : String) (s : List Symbol) : Except Fault (Read Document s) :=
  match Part.ofName? name with
  | some .version => (readPart s).map (·.map fun part => { version := part })
  | some .publishDate => (readPart s).map (·.map fun part => { publishDate := part })
  | some .data => (readData s).map (·.map fun data => { data := data })
  | none => (Json.skipValue s).map (·.map fun _ => {})

/-- The document with what its members say, each under its name, and of what they do not say that
of another document. -/
def assembled (start : Document) (held : Assoc Document) : Document where
  version := (held.find? Part.version.name).elim start.version Document.version
  publishDate := (held.find? Part.publishDate.name).elim start.publishDate Document.publishDate
  data := (held.find? Part.data.name).elim start.data Document.data

/-- What is read of a member under way is what is read of it alone. -/
theorem takes_takePart_iff : Takes (takePart progress name s) next rest ↔
    ∃ said, Takes (readAlone name s) said rest ∧
      ⟨assembled progress.document [(name, said)],
        (Part.ofName? name).toList ++ progress.taken⟩ = next := by
  unfold takePart readAlone
  cases named : Part.ofName? name with
  | none =>
    have others (part : Part) : name ≠ part.name := fun same => by
      rw [ofName?_eq_some_iff.2 same] at named
      cases named
    simp [Json.takes_item_map_iff, assembled, Assoc.find?, others]
  | some part =>
    obtain rfl := ofName?_eq_some_iff.1 named
    cases part <;> simp [Json.takes_item_map_iff, assembled, Assoc.find?, Part.name]

/-! ## Readers of parts -/

theorem takes_readData_iff {data : Option (List Value)} : Takes (readData s) data rest ↔
    ∃ symbol behind, Finds s symbol behind ∧
      ((symbol = some 'n' ∧ behind = ['u', 'l', 'l'].map some ++ rest ∧ data = none) ∨
        (symbol = some '[' ∧ ∃ items,
          Takes (Json.list (Json.value (innerLevels - 1)) behind) items rest ∧
            data = some items)) := by
  unfold readData Finds
  constructor
  · intro takes
    split at takes
    · rename_i behind shorter found
      obtain ⟨split, rfl⟩ := Json.takes_word_iff.1 takes
      exact ⟨_, _, ⟨_, found⟩, .inl ⟨rfl, split, rfl⟩⟩
    · rename_i behind shorter found
      obtain ⟨items, list, rfl⟩ := Json.takes_after_map_iff.1 takes
      exact ⟨_, _, ⟨_, found⟩, .inr ⟨rfl, items, list, rfl⟩⟩
    · obtain ⟨_, ⟨⟩⟩ := takes
  · rintro ⟨symbol, behind, ⟨shorter, found⟩, ⟨rfl, rfl, rfl⟩ | ⟨rfl, items, list, rfl⟩⟩
    · rw [found]
      exact Json.takes_word_iff.2 ⟨rfl, rfl⟩
    · rw [found]
      exact Json.takes_after_map_iff.2 ⟨items, list, rfl⟩

theorem isLocal_readData : IsLocal EndsNumeral readData := by
  intro s data rest takes
  obtain ⟨symbol, behind, finds, begins⟩ := takes_readData_iff.1 takes
  obtain ⟨front, rfl, found⟩ := finds.split
  rcases begins with ⟨rfl, rfl, rfl⟩ | ⟨rfl, items, list, rfl⟩
  · refine ⟨front ++ ['u', 'l', 'l'].map some, (List.append_assoc _ _ _).symm, fun rest _ => ?_⟩
    rw [List.append_assoc]
    exact takes_readData_iff.2 ⟨_, _, found _, .inl ⟨rfl, rfl, rfl⟩⟩
  · obtain ⟨text, rfl, reads⟩ :=
      Json.isLocal_list (Json.isLocal_value _) (Json.opensItem_value _) list
    refine ⟨front ++ text, (List.append_assoc _ _ _).symm, fun rest _ => ?_⟩
    rw [List.append_assoc]
    exact takes_readData_iff.2 ⟨_, _, found _, .inr ⟨rfl, items, reads rest trivial, rfl⟩⟩

theorem isLocal_readAlone (name : String) : IsLocal EndsNumeral (readAlone name) := by
  have readPart : IsLocal EndsNumeral readPart :=
    (Json.isLocal_value innerLevels).map fun _ _ _ => Json.takes_item_map_iff
  unfold readAlone
  split
  · exact readPart.map fun _ _ _ => Json.takes_item_map_iff
  · exact readPart.map fun _ _ _ => Json.takes_item_map_iff
  · exact isLocal_readData.map fun _ _ _ => Json.takes_item_map_iff
  · exact Json.isLocal_skipValue.map fun _ _ _ => Json.takes_item_map_iff

theorem isLocal_takePart (progress : Progress) (name : String) :
    IsLocal EndsNumeral (partReader.take progress name) :=
  (isLocal_readAlone name).map fun _ _ _ => takes_takePart_iff

/-! ## What the members say -/

/-- A member says what is read of it alone, under its name. -/
structure Tells (m : Member (List Symbol)) (said : String × Document) : Prop where
  named : m.Named said.1
  content : Spells (readAlone said.1) m.content said.2

/-- The parts that members name. -/
def parts (held : Assoc Document) : List Part := held.filterMap fun said => Part.ofName? said.1

/-- No part is named twice, and none that has been taken. -/
def Fresh (taken : List Part) (held : Assoc Document) : Prop :=
  (parts held).Nodup ∧ ∀ part ∈ parts held, part ∉ taken

theorem fresh_cons_iff {taken : List Part} {said : String × Document} :
    Fresh taken (said :: held) ↔
      (∀ part, Part.ofName? said.1 = some part → part ∉ taken) ∧
        Fresh ((Part.ofName? said.1).toList ++ taken) held := by
  unfold Fresh parts
  cases named : Part.ofName? said.1 with
  | none => simp [named]
  | some part =>
    simp only [List.filterMap_cons, named, List.nodup_cons,
      Option.some.injEq, forall_eq', Option.toList_some, List.singleton_append, List.mem_cons,
      not_or]
    grind

theorem find?_eq_none_of_parts {part : Part} (absent : part ∉ parts held) :
    Assoc.find? part.name held = none := by
  refine Assoc.find?_eq_none fun said isHeld same => absent ?_
  exact List.mem_filterMap.2 ⟨said, isHeld, ofName?_eq_some_iff.2 same⟩

/-- What the first member says is not said again. -/
theorem assembled_cons {said : String × Document}
    (once : ∀ part, Part.ofName? said.1 = some part → part ∉ parts held) :
    assembled start (said :: held) = assembled (assembled start [said]) held := by
  obtain ⟨name, said⟩ := said
  have each {β : Type} (part : Part) (before : β) (get : Document → β) :
      (Assoc.find? part.name ((name, said) :: held)).elim before get =
        (held.find? part.name).elim ((Assoc.find? part.name [(name, said)]).elim before get)
          get := by
    by_cases same : name = part.name
    · rw [find?_eq_none_of_parts (once part (ofName?_eq_some_iff.2 same))]
      simp [Assoc.find?, same]
    · simp [Assoc.find?, same]
  unfold assembled
  rw [each, each, each]

theorem allowPart_eq_ok_iff : allowPart progress name = .ok () ↔
    ∀ part, Part.ofName? name = some part → part ∉ progress.taken := by
  unfold allowPart
  cases Part.ofName? name with
  | none => exact ⟨fun _ => nofun, fun _ => rfl⟩
  | some part =>
    simp only [Option.some.injEq, forall_eq', List.contains_iff_mem]
    split
    · rename_i again
      exact ⟨nofun, fun allowed => absurd again allowed⟩
    · rename_i first
      exact ⟨fun _ => first, fun _ => rfl⟩

/-- Members are read exactly where each can be read alone and no part comes twice, and the document
has what they say. -/
theorem readsMembers_partReader_iff {members : List (Member (List Symbol))} :
    (∃ taken, ReadsMembers partReader progress members ⟨document, taken⟩) ↔
      ∃ held, List.Forall₂ Tells members held ∧ Fresh progress.taken held ∧
        assembled progress.document held = document := by
  induction members generalizing progress with
  | nil =>
    constructor
    · rintro ⟨taken, ⟨⟩⟩
      exact ⟨[], .nil, ⟨.nil, nofun⟩, rfl⟩
    · rintro ⟨held, ⟨⟩, -, rfl⟩
      exact ⟨_, .nil⟩
  | cons m members ih =>
    have once {name : String} {taken : List Part} {held : Assoc Document}
        (fresh : Fresh ((Part.ofName? name).toList ++ taken) held) (part : Part)
        (named : Part.ofName? name = some part) : part ∉ parts held := by
      intro again
      refine fresh.2 part again (List.mem_append_left _ ?_)
      rw [named]
      exact List.mem_singleton_self part
    constructor
    · rintro ⟨taken, reads⟩
      rcases reads with - | ⟨named, allowed, spells, reads⟩
      obtain ⟨said, alone, rfl⟩ := takes_takePart_iff.1 spells
      obtain ⟨held, all, fresh, rfl⟩ := ih.1 ⟨taken, reads⟩
      exact ⟨(_, said) :: held, .cons ⟨named, alone⟩ all,
        fresh_cons_iff.2 ⟨allowPart_eq_ok_iff.1 allowed, fresh⟩, assembled_cons (once fresh)⟩
    · rintro ⟨held, all, fresh, rfl⟩
      rcases all with - | @⟨_, said, _, held, tells, all⟩
      obtain ⟨allowed, fresh⟩ := fresh_cons_iff.1 fresh
      let next : Progress := ⟨assembled progress.document [said],
        (Part.ofName? said.1).toList ++ progress.taken⟩
      obtain ⟨taken, reads⟩ := (@ih next).2 ⟨held, all, fresh, (assembled_cons (once fresh)).symm⟩
      exact ⟨taken, .cons tells.named (allowPart_eq_ok_iff.2 allowed)
        (takes_takePart_iff.2 ⟨said.2, tells.content, rfl⟩) reads⟩

/-! ## Descriptors -/

/-- A descriptor as it is written: an object member by member, or else a text. -/
inductive WrittenDescriptor where
  | object (before : List Symbol) (members : List (Member (List Symbol))) (blank : List Symbol)
  | other (text : List Symbol)

namespace WrittenDescriptor

/-- The symbols of a descriptor. -/
def symbols : WrittenDescriptor → List Symbol
  | object before members blank => before ++ some '\x7b' :: Json.objectSymbols members blank
  | other text => text

/-- A descriptor is written as a value. One that opens a brace is taken apart. -/
inductive Holds : WrittenDescriptor → Value → Prop
  | object {before blank : List Symbol} {members : List (Member (List Symbol))}
      {pairs : Assoc Value} : IsBlank before → IsBlank blank →
      List.Forall₂ (Member.Holds (Json.value (innerLevels - 2))) members pairs →
      Holds (.object before members blank) (.object (Assoc.ofList pairs))
  | other {text : List Symbol} {source : Value} :
      Spells (Json.value (innerLevels - 1)) text source →
      (∀ behind, ¬ Finds text (some '\x7b') behind) → Holds (.other text) source

end WrittenDescriptor

theorem value_descriptor :
    Json.value (innerLevels - 1) = Json.valueWith (some (Json.value (innerLevels - 2))) := rfl

theorem spells_descriptor_iff {source : Value} : Spells (Json.value (innerLevels - 1)) text source ↔
    ∃ d : WrittenDescriptor, d.symbols = text ∧ d.Holds source := by
  have isLocal := Json.isLocal_keepMember (Json.isLocal_value (innerLevels - 2))
  constructor
  · intro spells
    by_cases isObject : ∃ behind, Finds text (some '\x7b') behind
    · obtain ⟨behind, finds⟩ := isObject
      rw [value_descriptor] at spells
      obtain ⟨_, _, finds', begins⟩ := Json.takes_valueWith_iff.1 spells
      obtain ⟨rfl, rfl⟩ := finds.unique finds'
      obtain ⟨-, before, isBlank, rfl⟩ := Json.finds_iff.1 finds
      cases begins with
      | digit digit => cases digit
      | object inner takes =>
        cases inner
        obtain ⟨members, blank, isBlank', rfl, reads⟩ := (Json.takes_members_iff isLocal).1 takes
        obtain ⟨pairs, all, rfl⟩ := Json.readsMembers_keepMember_iff.1 reads
        exact ⟨.object before members blank, by simp [WrittenDescriptor.symbols],
          .object isBlank isBlank' all⟩
    · exact ⟨.other text, rfl, .other spells (not_exists.1 isObject)⟩
  · rintro ⟨_, rfl, holds⟩
    cases holds with
    | other spells => exact spells
    | @object _ _ members pairs isBlank isBlank' all =>
      have reads : ReadsMembers (Json.keepMember (Json.value (innerLevels - 2))) [] members
          (Assoc.ofList pairs) := Json.readsMembers_keepMember_iff.2 ⟨pairs, all, rfl⟩
      have takes := (Json.takes_members_iff isLocal).2
        ⟨members, _, isBlank', (List.append_nil _).symm, reads⟩
      rw [value_descriptor]
      exact Json.takes_valueWith_iff.2
        ⟨_, _, Json.finds_append isBlank rfl _, .object rfl takes⟩

/-! ## Contents of members -/

/-- What stands behind the colon of a document's member: a list of descriptors, or else a text. -/
inductive WrittenContent where
  | descriptors (before : List Symbol) (items : List (Item WrittenDescriptor)) (blank : List Symbol)
  | other (text : List Symbol)

/-- A descriptor is written as an item of a list. -/
structure HoldsItem (i : Item WrittenDescriptor) (source : Value) : Prop where
  content : i.content.Holds source
  after : IsBlank i.after

namespace WrittenContent

/-- The symbols of a content. -/
def symbols : WrittenContent → List Symbol
  | descriptors before items blank =>
    before ++ some '[' :: Json.listSymbols (items.map (Item.map WrittenDescriptor.symbols)) blank
  | other text => text

/-- What a member of a name says is written behind its colon. A list of descriptors is taken
apart. -/
inductive Holds : WrittenContent → String → Document → Prop
  | descriptors {before blank : List Symbol} {items : List (Item WrittenDescriptor)}
      {sources : List Value} : IsBlank before → IsBlank blank →
      List.Forall₂ HoldsItem items sources →
      Holds (.descriptors before items blank) Part.data.name { data := some sources }
  | other {text : List Symbol} {name : String} {said : Document} :
      Spells (readAlone name) text said →
      (name = Part.data.name → ∀ behind, ¬ Finds text (some '[') behind) →
      Holds (.other text) name said

end WrittenContent

theorem forall₂_holdsItem_iff {items : List (Item (List Symbol))} {sources : List Value} :
    List.Forall₂ (Item.Holds (Json.value (innerLevels - 1))) items sources ↔
      ∃ written : List (Item WrittenDescriptor),
        written.map (Item.map WrittenDescriptor.symbols) = items ∧
          List.Forall₂ HoldsItem written sources := by
  constructor
  · intro all
    refine exists_forall₂_map all fun i source holds => ?_
    obtain ⟨d, written, holdsDescriptor⟩ := spells_descriptor_iff.1 holds.content
    exact ⟨⟨d, i.after⟩, by rw [Item.map, written], holdsDescriptor, holds.after⟩
  · rintro ⟨written, rfl, all⟩
    exact List.forall₂_map_left_iff.2 (all.imp fun i source holds =>
      ⟨spells_descriptor_iff.2 ⟨_, rfl, holds.content⟩, holds.after⟩)

theorem spells_readAlone_iff {said : Document} : Spells (readAlone name) text said ↔
    ∃ c : WrittenContent, c.symbols = text ∧ c.Holds name said := by
  have takes_list_iff {s rest : List Symbol} {sources : List Value} :=
    @Json.takes_list_iff Value s rest sources _ (Json.isLocal_value (innerLevels - 1))
      (Json.opensItem_value (innerLevels - 1))
  have spells_data {text : List Symbol} {said : Document} :
      Spells (readAlone Part.data.name) text said ↔
        ∃ data, Takes (readData text) data [] ∧ { data := data } = said := Json.takes_item_map_iff
  constructor
  · intro spells
    by_cases isList : name = Part.data.name ∧ ∃ behind, Finds text (some '[') behind
    · obtain ⟨rfl, behind, finds⟩ := isList
      obtain ⟨data, takes, rfl⟩ := spells_data.1 spells
      obtain ⟨_, _, finds', begins⟩ := takes_readData_iff.1 takes
      obtain ⟨rfl, rfl⟩ := finds.unique finds'
      obtain ⟨-, before, isBlank, rfl⟩ := Json.finds_iff.1 finds
      rcases begins with ⟨⟨⟩, -⟩ | ⟨-, sources, list, rfl⟩
      obtain ⟨items, blank, isBlank', rfl, all⟩ := takes_list_iff.1 list
      obtain ⟨written, rfl, holds⟩ := forall₂_holdsItem_iff.1 all
      exact ⟨.descriptors before written blank, by simp [WrittenContent.symbols],
        .descriptors isBlank isBlank' holds⟩
    · exact ⟨.other text, rfl, .other spells fun named behind finds =>
        isList ⟨named, behind, finds⟩⟩
  · rintro ⟨_, rfl, holds⟩
    cases holds with
    | other spells => exact spells
    | descriptors isBlank isBlank' all =>
      have list := takes_list_iff.2 ⟨_, _, isBlank', (List.append_nil _).symm,
        forall₂_holdsItem_iff.2 ⟨_, rfl, all⟩⟩
      exact spells_data.2 ⟨_, takes_readData_iff.2
        ⟨_, _, Json.finds_append isBlank rfl _, .inr ⟨rfl, _, list, rfl⟩⟩, rfl⟩

/-! ## Documents -/

/-- A document as it is written in the form of an object. -/
structure Layout where
  before : List Symbol
  members : List (Member WrittenContent)
  blank : List Symbol
  after : List Symbol

/-- A member is written as what it says under its name. -/
structure HoldsMember (m : Member WrittenContent) (said : String × Document) : Prop where
  named : m.Named said.1
  content : m.content.Holds said.1 said.2

theorem forall₂_holdsMember_iff {members : List (Member (List Symbol))} :
    List.Forall₂ Tells members held ↔ ∃ written : List (Member WrittenContent),
      written.map (Member.map WrittenContent.symbols) = members ∧
        List.Forall₂ HoldsMember written held := by
  constructor
  · intro all
    refine exists_forall₂_map all fun m said tells => ?_
    obtain ⟨c, written, holds⟩ := spells_readAlone_iff.1 tells.content
    obtain ⟨name, before, between, after⟩ := tells.named
    exact ⟨m.map fun _ => c, by rw [Member.map, Member.map, written],
      ⟨name, before, between, after⟩, holds⟩
  · rintro ⟨written, rfl, all⟩
    refine List.forall₂_map_left_iff.2 (all.imp fun m said holds => ?_)
    obtain ⟨name, before, between, after⟩ := holds.named
    exact ⟨⟨name, before, between, after⟩, spells_readAlone_iff.2 ⟨_, rfl, holds.content⟩⟩

namespace Layout

/-- The symbols of a document. -/
def symbols (w : Layout) : List Symbol :=
  w.before ++ some '\x7b' ::
    (Json.objectSymbols (w.members.map (Member.map WrittenContent.symbols)) w.blank ++ w.after)

/-- A document is written as what its members say, with nothing but spaces around them. -/
structure Holds (w : Layout) (held : Assoc Document) : Prop where
  before : IsBlank w.before
  members : List.Forall₂ HoldsMember w.members held
  blank : IsBlank w.blank
  after : IsBlank w.after

end Layout

theorem endOfText_eq_ok_iff : Json.endOfText s = .ok () ↔ IsBlank s := by
  have isBlank_iff : IsBlank s ↔ s.dropWhile Json.isSpace = [] := List.dropWhile_eq_nil_iff.symm
  unfold Json.endOfText Json.next
  rw [isBlank_iff]
  constructor
  · intro run
    split at run
    · rename_i none
      split at none
      · assumption
      · cases none
    · cases run
  · intro nothing
    split
    · rfl
    · rename_i read found
      split at found
      · cases found
      · rename_i symbol rest something
        cases nothing.symm.trans something

theorem ofSymbols_eq_ok_iff {behind : List Symbol} (finds : Finds s (some '\x7b') behind) :
    ofSymbols s = .ok document ↔ ∃ taken rest,
      Takes (Json.members partReader {} behind) ⟨document, taken⟩ rest ∧ IsBlank rest := by
  obtain ⟨shorter, found⟩ := finds
  unfold ofSymbols
  rw [found]
  constructor
  · intro run
    obtain ⟨read, objectRead, run⟩ := bind_eq_ok_iff.1 run
    obtain ⟨⟨⟩, ended, ⟨⟩⟩ := bind_eq_ok_iff.1 run
    obtain ⟨progress, membersRead, rfl⟩ := map_eq_ok_iff.1 objectRead
    exact ⟨_, _, ⟨progress.shorter, membersRead⟩, endOfText_eq_ok_iff.1 ended⟩
  · rintro ⟨taken, rest, ⟨shorter, membersRead⟩, isBlank⟩
    exact bind_eq_ok_iff.2 ⟨_, map_eq_ok_iff.2 ⟨_, membersRead, rfl⟩,
      bind_eq_ok_iff.2 ⟨(), endOfText_eq_ok_iff.2 isBlank, rfl⟩⟩

/-- Every document in the form of an object is laid out as its members. -/
theorem exists_layout {behind : List Symbol} (finds : Finds s (some '\x7b') behind)
    (read : ofSymbols s = .ok document) :
    ∃ (w : Layout) (held : Assoc Document), w.Holds held ∧ w.symbols = s := by
  obtain ⟨taken, after, takes, isBlank⟩ := (ofSymbols_eq_ok_iff finds).1 read
  obtain ⟨-, before, isBlank', rfl⟩ := Json.finds_iff.1 finds
  obtain ⟨members, blank, isBlank'', rfl, reads⟩ :=
    (Json.takes_members_iff isLocal_takePart).1 takes
  obtain ⟨held, all, -, -⟩ := readsMembers_partReader_iff.1 ⟨taken, reads⟩
  obtain ⟨written, rfl, holds⟩ := forall₂_holdsMember_iff.1 all
  exact ⟨⟨before, written, blank, after⟩, held, ⟨isBlank', holds, isBlank'', isBlank⟩, rfl⟩

/-- What is laid out with no part twice is read as what its members say. -/
theorem Layout.ofSymbols_symbols {w : Layout} (holds : w.Holds held) (fresh : Fresh [] held) :
    ofSymbols w.symbols = .ok (assembled {} held) := by
  have all := forall₂_holdsMember_iff.2 ⟨_, rfl, holds.members⟩
  obtain ⟨taken, reads⟩ := (@readsMembers_partReader_iff {} _ _).2 ⟨held, all, fresh, rfl⟩
  refine (ofSymbols_eq_ok_iff (Json.finds_append holds.before rfl _)).2
    ⟨taken, w.after, ?_, holds.after⟩
  exact (Json.takes_members_iff isLocal_takePart).2 ⟨_, _, holds.blank, rfl, reads⟩

end Document

end EvidenceTree
