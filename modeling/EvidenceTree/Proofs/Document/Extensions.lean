import EvidenceTree.Proofs.Document.Layouts
import EvidenceTree.Proofs.Document.Reorderings

/-!
# Documents that say more

A document may come from a later publisher: its members and those of its descriptors stand in
another order, and there are members among them that nobody asks for. What it says of the parts and
fields that are known is the same, so the same tree is built from it, as long as no name comes
twice.

* `Json.Rearranged`: members in another order, with new ones among them.
* `Document.Layout.Widens`: a document whose members and descriptors are rearranged so.
* `Builder.buildSymbols_widened`: the same tree is built from it.
-/

namespace EvidenceTree

open Descriptor (Field)
open Json (Item Member Spells Finds Value)
open Text (Symbol)

/-! ## Lists side by side -/

section

variable {α β γ δ : Type} {related : α → β → Prop} {as : List α} {bs : List β}

theorem exists_forall₂ (each : ∀ a ∈ as, ∃ b, related a b) : ∃ bs, List.Forall₂ related as bs := by
  induction as with
  | nil => exact ⟨[], .nil⟩
  | cons a as ih =>
    obtain ⟨first, others⟩ := List.forall_mem_cons.1 each
    obtain ⟨b, isRelated⟩ := first
    obtain ⟨bs, all⟩ := ih others
    exact ⟨b :: bs, .cons isRelated all⟩

/-- Two relations of one list each lead to a list that completes the square. -/
theorem exists_forall₂_forall₂ {lifts : α → γ → Prop} {related' : γ → δ → Prop}
    {lifts' : β → δ → Prop} {cs : List γ} (all : List.Forall₂ related as bs)
    (allLift : List.Forall₂ lifts as cs)
    (each : ∀ a b c, related a b → lifts a c → ∃ d, related' c d ∧ lifts' b d) :
    ∃ ds, List.Forall₂ related' cs ds ∧ List.Forall₂ lifts' bs ds := by
  induction all generalizing cs with
  | nil =>
    cases allLift
    exact ⟨[], .nil, .nil⟩
  | cons isRelated _ ih =>
    rcases allLift with - | ⟨isLift, allLift⟩
    obtain ⟨d, isRelated', isLift'⟩ := each _ _ _ isRelated isLift
    obtain ⟨ds, all', allLift'⟩ := ih allLift
    exact ⟨d :: ds, .cons isRelated' all', .cons isLift' allLift'⟩

theorem exists_getElem?_of_forall₂ {i : Nat} {b : β} (all : List.Forall₂ related as bs)
    (here : bs[i]? = some b) : ∃ a, as[i]? = some a ∧ related a b := by
  induction all generalizing i with
  | nil => cases here
  | cons first _ ih =>
    cases i with
    | zero =>
      cases here
      exact ⟨_, rfl, first⟩
    | succ i => exact ih here

end

/-! ## Values under their keys -/

namespace Assoc

variable {α : Type} {pairs pairs' added : Assoc α} {key : String} {value : α}

theorem find?_eq_some_iff (distinct : (pairs.map Prod.fst).Nodup) :
    find? key pairs = some value ↔ (key, value) ∈ pairs := by
  induction pairs with
  | nil => exact ⟨nofun, nofun⟩
  | cons first rest ih =>
    obtain ⟨k, v⟩ := first
    obtain ⟨apart, distinct⟩ := List.nodup_cons.1 distinct
    rw [find?, List.mem_cons, ← ih distinct]
    split
    · rename_i same
      subst same
      simp [find?_eq_none_of_notMem apart, eq_comm]
    · rename_i differ
      simp [Ne.symm differ]

/-- A value is found where it was, whatever its pair is moved to and whatever comes under other
keys. -/
theorem find?_of_perm (permuted : pairs'.Perm (pairs ++ added))
    (distinct : (pairs'.map Prod.fst).Nodup) (others : ∀ pair ∈ added, pair.1 ≠ key) :
    find? key pairs' = find? key pairs := by
  have distinct' : ((pairs ++ added).map Prod.fst).Nodup := (permuted.map _).nodup_iff.1 distinct
  rw [List.map_append] at distinct'
  refine Option.ext fun value => ?_
  rw [find?_eq_some_iff distinct, find?_eq_some_iff distinct'.of_append_left, permuted.mem_iff,
    List.mem_append]
  exact or_iff_left fun isAdded => others _ isAdded rfl

theorem find?_rel {β : Type} {related : α → β → Prop} {others : Assoc β}
    (all : List.Forall₂ (fun pair other => other.1 = pair.1 ∧ related pair.2 other.2) pairs others)
    (key : String) : Option.Rel related (find? key pairs) (find? key others) := by
  induction all with
  | nil => exact .none
  | @cons pair other _ _ first _ ih =>
    obtain ⟨k, v⟩ := pair
    obtain ⟨k', v'⟩ := other
    obtain ⟨rfl, isRelated⟩ := first
    rw [find?, find?]
    split
    · exact .some isRelated
    · exact ih

end Assoc

/-! ## Members in another order -/

namespace Json

variable {α β : Type} {m : Member β} {members members' : List (Member β)} {pairs : Assoc α}
  {name : String}

/-- The name of a member as it is read. -/
def Member.name? (m : Member β) : Option String :=
  match string m.name with
  | .ok read => if read.rest = [] then some read.item else none
  | .error _ => none

theorem Member.Named.name?_eq (named : m.Named name) : m.name? = some name := by
  obtain ⟨_, read⟩ := named.name
  unfold Member.name?
  rw [read]
  rfl

/-- The members in any order, with new ones among them, and no name twice. -/
structure Rearranged (isNew : Member β → Prop) (members members' : List (Member β)) : Prop where
  permuted : ∃ added, (∀ m ∈ added, isNew m) ∧ members'.Perm (members ++ added)
  distinct : (members'.map Member.name?).Nodup

/-- What rearranged members say under the names that are known is what they said. -/
theorem Rearranged.exists_pairs {isNew : Member β → Prop} {holds : Member β → String × α → Prop}
    (known : String → Prop) (rearranged : Rearranged isNew members members')
    (all : List.Forall₂ holds members pairs) (named : ∀ m pair, holds m pair → m.Named pair.1)
    (new : ∀ m, isNew m → ∃ pair, holds m pair ∧ ¬ known pair.1) :
    ∃ pairs', List.Forall₂ holds members' pairs' ∧ (pairs.map Prod.fst).Nodup ∧
      (pairs'.map Prod.fst).Nodup ∧
      ∀ key, known key → Assoc.find? key pairs' = Assoc.find? key pairs := by
  obtain ⟨added, isNew, permuted⟩ := rearranged.permuted
  obtain ⟨addedPairs, allAdded⟩ := exists_forall₂ fun m isAdded => new m (isNew m isAdded)
  have both : List.Forall₂ holds (members ++ added) (pairs ++ addedPairs) :=
    List.rel_append all (allAdded.imp fun _ _ => And.left)
  obtain ⟨pairs', all', permuted'⟩ := List.perm_comp_forall₂ permuted both
  have names : members'.map Member.name? = (pairs'.map Prod.fst).map some := by
    rw [List.map_map, ← List.forall₂_eq_eq_eq]
    exact List.forall₂_map_left_iff.2 (List.forall₂_map_right_iff.2
      (all'.imp fun m pair holds => (named m pair holds).name?_eq))
  have distinct := rearranged.distinct
  rw [names] at distinct
  have distinct' := distinct.of_map
  have distinct'' : ((pairs ++ addedPairs).map Prod.fst).Nodup :=
    (permuted'.map _).nodup_iff.1 distinct'
  rw [List.map_append] at distinct''
  refine ⟨pairs', all', distinct''.of_append_left, distinct', fun key isKnown =>
    Assoc.find?_of_perm permuted' distinct' fun pair isAdded same => ?_⟩
  obtain ⟨_, -, -, unknown⟩ := exists_of_mem_forall₂ allAdded isAdded
  exact unknown (same ▸ isKnown)

/-- Members are rearranged when they come backwards behind a new one. -/
theorem rearranged_reverse {isNew : Member β → Prop} {new : Member β} (holds : isNew new)
    (distinct : ((new :: members.reverse).map Member.name?).Nodup) :
    Rearranged isNew members (new :: members.reverse) where
  permuted := ⟨[new], List.forall_mem_singleton.2 holds,
    ((List.reverse_perm members).cons new).trans (List.perm_append_singleton new members).symm⟩
  distinct := distinct

end Json

/-! ## Descriptors with new fields -/

theorem Descriptor.ofMembers_congr {members members' : Assoc Value}
    (same : ∀ field : Field, members'.find? field.name = members.find? field.name) :
    ofMembers members' = ofMembers members := by
  have literal := same .literal
  have range := same .range
  have key := same .key
  have profile := same .profile
  have children := same .children
  simp only [Field.name] at literal range key profile children
  unfold ofMembers
  rw [literal, range, key, profile, children]

namespace Document

open Json (Rearranged)

variable {held : Assoc Document} {document document' : Document}

/-- A member of a descriptor that no field is read from. -/
def IsNewField (m : Member (List Symbol)) : Prop :=
  ∃ pair : String × Value, m.Holds (Json.value (innerLevels - 2)) pair ∧
    ¬ ∃ field : Field, field.name = pair.1

/-- A descriptor as it was, or as an object with its members rearranged. -/
inductive WrittenDescriptor.Widens : WrittenDescriptor → WrittenDescriptor → Prop
  | same {d : WrittenDescriptor} : Widens d d
  | object {before blank : List Symbol} {members members' : List (Member (List Symbol))} :
      Rearranged IsNewField members members' →
      Widens (.object before members blank) (.object before members' blank)

theorem WrittenDescriptor.Widens.exists_holds {d d' : WrittenDescriptor} {source : Value}
    (widens : d.Widens d') (holds : d.Holds source) :
    ∃ source', d'.Holds source' ∧ Descriptor.ofValue source' = Descriptor.ofValue source := by
  cases widens with
  | same => exact ⟨source, holds, rfl⟩
  | object rearranged =>
    cases holds with
    | object isBlank isBlank' all =>
      obtain ⟨pairs', all', distinct, distinct', same⟩ :=
        rearranged.exists_pairs (fun name => ∃ field : Field, field.name = name) all
          (fun _ _ holds => holds.named) fun _ isNew => isNew
      refine ⟨_, .object isBlank isBlank' all', Descriptor.ofMembers_congr fun field => ?_⟩
      rw [Assoc.find?_ofList distinct, Assoc.find?_ofList distinct', same _ ⟨field, rfl⟩]

/-! ## Documents with new parts -/

/-- The same is said of the parts, by descriptors that are read as the same. -/
structure Alike (document document' : Document) : Prop where
  version : document'.version = document.version
  publishDate : document'.publishDate = document.publishDate
  data : Option.Rel (List.Forall₂ fun source source' =>
    Descriptor.ofValue source' = Descriptor.ofValue source) document.data document'.data

theorem Alike.refl (document : Document) : Alike document document := by
  refine ⟨rfl, rfl, ?_⟩
  cases document.data with
  | none => exact .none
  | some sources => exact .some (List.forall₂_same.2 fun _ _ => rfl)

/-- A content as it was, or a list with its descriptors widened. -/
inductive WrittenContent.Widens : WrittenContent → WrittenContent → Prop
  | same {c : WrittenContent} : Widens c c
  | descriptors {before blank : List Symbol} {items items' : List (Item WrittenDescriptor)} :
      List.Forall₂ (fun i i' => ∃ d, i.content.Widens d ∧ i' = i.map fun _ => d) items items' →
      Widens (.descriptors before items blank) (.descriptors before items' blank)

theorem WrittenContent.Widens.exists_holds {c c' : WrittenContent} {name : String} {said : Document}
    (widens : c.Widens c') (holds : c.Holds name said) :
    ∃ said', c'.Holds name said' ∧ Alike said said' := by
  cases widens with
  | same => exact ⟨said, holds, .refl said⟩
  | descriptors allWiden =>
    cases holds with
    | descriptors isBlank isBlank' all =>
      have each (i : Item WrittenDescriptor) (source : Value) (i' : Item WrittenDescriptor)
          (holds : HoldsItem i source)
          (isWidened : ∃ d, i.content.Widens d ∧ i' = i.map fun _ => d) : ∃ source',
            HoldsItem i' source' ∧ Descriptor.ofValue source' = Descriptor.ofValue source := by
        obtain ⟨d, widens, rfl⟩ := isWidened
        obtain ⟨source', holds', same⟩ := widens.exists_holds holds.content
        exact ⟨source', ⟨holds', holds.after⟩, same⟩
      obtain ⟨sources', all', alike⟩ := exists_forall₂_forall₂ all allWiden each
      exact ⟨_, .descriptors isBlank isBlank' all', rfl, rfl, .some alike⟩

/-- A member of a document that no part is read from. What it holds is passed over, as every value
is that could be read there. -/
def IsNewPart (m : Member WrittenContent) : Prop :=
  ∃ name text, m.Named name ∧ (¬ ∃ part : Part, part.name = name) ∧ m.content = .other text ∧
    Spells Json.skipValue text ()

theorem isNewPart_of_value {m : Member WrittenContent} {name : String} {text : List Symbol}
    {levels : Nat} {v : Value} (named : m.Named name) (unknown : ∀ part : Part, part.name ≠ name)
    (content : m.content = .other text) (spells : Spells (Json.value levels) text v) :
    IsNewPart m :=
  ⟨name, text, named, not_exists.2 unknown, content, Json.skipValue_of_value spells⟩

theorem IsNewPart.exists_holds {m : Member WrittenContent} (isNew : IsNewPart m) :
    ∃ said, HoldsMember m said ∧ ¬ ∃ part : Part, part.name = said.1 := by
  obtain ⟨name, text, named, unknown, content, skips⟩ := isNew
  have noPart : Part.ofName? name = none := by
    cases found : Part.ofName? name with
    | none => rfl
    | some part => exact absurd ⟨part, (ofName?_eq_some_iff.1 found).symm⟩ unknown
  refine ⟨(name, {}), ⟨named, ?_⟩, unknown⟩
  rw [content]
  refine .other ?_ fun same => absurd ⟨.data, same.symm⟩ unknown
  unfold readAlone
  rw [noPart]
  exact Json.takes_item_map_iff.2 ⟨(), skips, rfl⟩

/-- A document with its descriptors widened, and then its members rearranged. -/
structure Layout.Widens (w w' : Layout) : Prop where
  before : w'.before = w.before
  members : ∃ members, List.Forall₂ (fun m m' => ∃ c, m.content.Widens c ∧ m' = m.map fun _ => c)
    w.members members ∧ Rearranged IsNewPart members w'.members
  blank : w'.blank = w.blank
  after : w'.after = w.after

theorem alike_assembled {held' : Assoc Document} (all : List.Forall₂
    (fun said said' => said'.1 = said.1 ∧ Alike said.2 said'.2) held held') :
    Alike (assembled {} held) (assembled {} held') := by
  have each {β : Type} (related : β → β → Prop) {before : β} {get : Document → β} (part : Part)
      (same : related before before) (alike : ∀ d d', Alike d d' → related (get d) (get d')) :
      related ((held.find? part.name).elim before get)
        ((held'.find? part.name).elim before get) := by
    have rel := Assoc.find?_rel all part.name
    generalize held.find? part.name = found at rel
    generalize held'.find? part.name = found' at rel
    cases rel with
    | none => exact same
    | some isAlike => exact alike _ _ isAlike
  exact
    { version := each (fun part part' => part' = part) .version rfl fun _ _ => Alike.version
      publishDate := each (fun part part' => part' = part) .publishDate rfl fun _ _ =>
        Alike.publishDate
      data := each _ .data .none fun _ _ => Alike.data }

theorem fresh_of_nodup (distinct : (held.map Prod.fst).Nodup) : Fresh [] held := by
  refine ⟨?_, fun _ _ => nofun⟩
  have isParts : parts held = (held.map Prod.fst).filterMap Part.ofName? := by
    rw [List.filterMap_map]
    rfl
  rw [isParts]
  refine distinct.filterMap fun name name' part found found' => ?_
  exact (ofName?_eq_some_iff.1 found).trans (ofName?_eq_some_iff.1 found').symm

/-- A widened document says of the parts what it said. -/
theorem Layout.Widens.exists_holds {w w' : Layout} (widens : w.Widens w') (holds : w.Holds held) :
    ∃ held', w'.Holds held' ∧ Fresh [] held ∧ Fresh [] held' ∧
      Alike (assembled {} held) (assembled {} held') := by
  obtain ⟨before, ⟨members, allWiden, rearranged⟩, blank, after⟩ := widens
  have each (m : Member WrittenContent) (said : String × Document) (m' : Member WrittenContent)
      (holds : HoldsMember m said) (isWidened : ∃ c, m.content.Widens c ∧ m' = m.map fun _ => c) :
      ∃ said', HoldsMember m' said' ∧ said'.1 = said.1 ∧ Alike said.2 said'.2 := by
    obtain ⟨c, widens, rfl⟩ := isWidened
    obtain ⟨said', holds', isAlike⟩ := widens.exists_holds holds.content
    obtain ⟨name, before, between, after⟩ := holds.named
    exact ⟨(said.1, said'), ⟨⟨name, before, between, after⟩, holds'⟩, rfl, isAlike⟩
  obtain ⟨held', all', alike⟩ := exists_forall₂_forall₂ holds.members allWiden each
  obtain ⟨held'', all'', distinct', distinct'', same⟩ :=
    rearranged.exists_pairs (fun name => ∃ part : Part, part.name = name) all'
      (fun _ _ holds => holds.named) fun _ isNew => isNew.exists_holds
  have names : held'.map Prod.fst = held.map Prod.fst := by
    rw [← List.forall₂_eq_eq_eq]
    exact List.forall₂_map_left_iff.2 (List.forall₂_map_right_iff.2
      (alike.flip.imp fun _ _ isAlike => isAlike.1))
  have same' : assembled {} held'' = assembled {} held' := by
    unfold assembled
    rw [same _ ⟨.version, rfl⟩, same _ ⟨.publishDate, rfl⟩, same _ ⟨.data, rfl⟩]
  refine ⟨held'', ⟨before ▸ holds.before, all'', blank ▸ holds.blank, after ▸ holds.after⟩,
    fresh_of_nodup (names ▸ distinct'), fresh_of_nodup distinct'', ?_⟩
  rw [same']
  exact alike_assembled alike

/-- Documents that say the same represent the same tree. -/
theorem Represents.of_alike {tree : Tree} (represents : Represents document tree)
    (alike : Alike document document') : Represents document' tree := by
  obtain ⟨version, publishDate, data, here, stand⟩ := represents
  obtain ⟨sameVersion, sameDate, sameData⟩ := alike
  rw [here] at sameData
  generalize here' : document'.data = found at sameData
  rcases sameData with ⟨all⟩ | -
  refine ⟨sameVersion ▸ version, sameDate ▸ publishDate, _, here', ?_, fun i source' placed => ?_⟩
  · rw [stand.same_length, all.length_eq]
  · obtain ⟨source, placed', same⟩ := exists_getElem?_of_forall₂ all placed
    obtain ⟨node, inNodes, stands⟩ := stand.each i source placed'
    refine ⟨node, inNodes, Descriptor.stands_iff.2 ?_⟩
    rw [same]
    exact Descriptor.stands_iff.1 stands

end Document

namespace Builder

open Document

variable {builder : Builder} {s behind : List Symbol} {tree : Tree}

theorem buildSymbols_eq_ok_iff : (builder.buildSymbols s).1 = .ok tree ↔
    ∃ document, Document.ofSymbols s = .ok document ∧ document.Represents tree := by
  unfold buildSymbols
  constructor
  · intro run
    split at run
    · cases run
    · rename_i document read
      exact ⟨document, read, build_eq_ok_iff.1 run⟩
  · rintro ⟨document, read, represents⟩
    rw [read]
    exact build_eq_ok_iff.2 represents

/-- Every document in the form of an object that a tree is built from is laid out as members, and
whatever layout it has, the same tree is built from it when it is widened. -/
theorem buildSymbols_widened (isObject : Finds s (some '\x7b') behind)
    (built : (builder.buildSymbols s).1 = .ok tree) :
    (∃ (w : Layout) (held : Assoc Document), w.Holds held ∧ w.symbols = s) ∧
      ∀ (w w' : Layout) (held : Assoc Document), w.Holds held → w.symbols = s → w.Widens w' →
        ∀ builder' : Builder, (builder'.buildSymbols w'.symbols).1 = .ok tree := by
  obtain ⟨document, read, represents⟩ := buildSymbols_eq_ok_iff.1 built
  refine ⟨exists_layout isObject read, fun w w' held holds written widens builder' => ?_⟩
  obtain ⟨held', holds', fresh, fresh', alike⟩ := widens.exists_holds holds
  have same : document = assembled {} held := by
    rw [← written, Layout.ofSymbols_symbols holds fresh] at read
    exact (Except.ok.inj read).symm
  exact buildSymbols_eq_ok_iff.2 ⟨_, Layout.ofSymbols_symbols holds' fresh',
    (same ▸ represents).of_alike alike⟩

/-! ### Documents as they are written -/

/-- A member of a document with a value. -/
def partMember (name : String) (v : Value) : Member WrittenContent :=
  Json.writtenUnder name (.other (v.chars.map some))

/-- A descriptor with the members of an object. -/
def writtenObject (members : Assoc Value) : WrittenDescriptor :=
  .object [] (members.map Json.writtenMember) []

/-- The member with the descriptors. -/
def dataMember (descriptors : List WrittenDescriptor) : Member WrittenContent :=
  Json.writtenUnder Part.data.name (.descriptors [] (descriptors.map fun d => ⟨d, []⟩) [])

/-- A document with all parts, the descriptors last. -/
def writtenDocument (descriptors : List WrittenDescriptor) : Layout :=
  ⟨[], [partMember "Version" (.string "1"), partMember "PublishDate" (.string "d"),
    dataMember descriptors], [], []⟩

theorem symbols_writtenDocument (first second : WrittenDescriptor) :
    (writtenDocument [first, second]).symbols =
      Symbol.ofString "\x7b\"Version\":\"1\",\"PublishDate\":\"d\",\"Data\":[" ++
        (first.symbols ++ some ',' :: (second.symbols ++ [some ']', some '\x7d'])) := by
  have front : Symbol.ofString "\x7b\"Version\":\"1\",\"PublishDate\":\"d\",\"Data\":[" =
      some '\x7b' :: some '"' :: ((Json.nameChars "Version").map some ++ some ':' ::
        ((Value.string "1").chars.map some ++ some ',' :: some '"' ::
          ((Json.nameChars "PublishDate").map some ++ some ':' ::
            ((Value.string "d").chars.map some ++ some ',' :: some '"' ::
              ((Json.nameChars "Data").map some ++ [some ':', some '[']))))) := by
    decide +kernel
  rw [front]
  simp [writtenDocument, Layout.symbols, partMember, dataMember, Json.writtenUnder,
    Member.map, Json.objectSymbols, Json.joined, Member.symbols, WrittenContent.symbols,
    Json.listSymbols, Item.map, Item.symbols, Part.name]

theorem spells_string (text : String) (levels : Nat) :
    Spells (Json.value levels) ((Value.string text).chars.map some) (.string text) :=
  Json.spells_chars .string .string

theorem holds_writtenDocument {descriptors : List WrittenDescriptor} {sources : List Value}
    (all : List.Forall₂ WrittenDescriptor.Holds descriptors sources) :
    (writtenDocument descriptors).Holds
      [("Version", { version := some (.string "1") }),
        ("PublishDate", { publishDate := some (.string "d") }),
        ("Data", { data := some sources })] := by
  have part (said : String) : Spells readPart ((Value.string said).chars.map some)
      (some (.string said)) := Json.takes_item_map_iff.2 ⟨_, spells_string said _, rfl⟩
  have version : (WrittenContent.other ((Value.string "1").chars.map some)).Holds "Version"
      { version := some (.string "1") } :=
    .other (Json.takes_item_map_iff.2 ⟨_, part "1", rfl⟩) fun same => absurd same (by decide)
  have publishDate : (WrittenContent.other ((Value.string "d").chars.map some)).Holds "PublishDate"
      { publishDate := some (.string "d") } :=
    .other (Json.takes_item_map_iff.2 ⟨_, part "d", rfl⟩) fun same => absurd same (by decide)
  have items : List.Forall₂ HoldsItem (descriptors.map fun d => ⟨d, []⟩) sources :=
    List.forall₂_map_left_iff.2 (all.imp fun _ _ holds => ⟨holds, nofun⟩)
  have named {content : WrittenContent} (name : String) :=
    Json.named_writtenUnder name content
  exact ⟨nofun, .cons ⟨named "Version", version⟩ (.cons ⟨named "PublishDate", publishDate⟩
    (.cons ⟨named "Data", .descriptors nofun nofun items⟩ .nil)), nofun, nofun⟩

/-- A document that is written so is read as its parts. -/
theorem ofSymbols_writtenDocument {descriptors : List WrittenDescriptor} {sources : List Value}
    (all : List.Forall₂ WrittenDescriptor.Holds descriptors sources) :
    Document.ofSymbols (writtenDocument descriptors).symbols =
      .ok ⟨some (.string "1"), some (.string "d"), some sources⟩ := by
  have distinct : ["Version", "PublishDate", "Data"].Nodup := by decide
  exact Layout.ofSymbols_symbols (holds_writtenDocument all) (fresh_of_nodup distinct)

/-! ### A document from a later publisher -/

/-- A descriptor in the form of a list. -/
def lastDescriptor : Value := .array [.string "b", .null, .string "l", .ofNat 7]

/-- The document of a chain. -/
def chainLayout : Layout :=
  ⟨[], [partMember "Version" (.string "1"), partMember "PublishDate" (.string "d"),
    dataMember [writtenObject [("n", .array [.ofNat 1])],
      writtenObject [("m", .string "k"), ("n", .array [.ofNat 2]), ("v", .string "a")],
      .other (lastDescriptor.chars.map some)]], [], []⟩

/-- The same backwards, with a new member in front of the document and of each descriptor that is an
object. -/
def laterLayout : Layout :=
  ⟨[], [partMember "Later" (.array [.object []]),
    dataMember [writtenObject [("z", .null), ("n", .array [.ofNat 1])],
      writtenObject [("w", .array []), ("v", .string "a"), ("n", .array [.ofNat 2]),
        ("m", .string "k")],
      .other (lastDescriptor.chars.map some)],
    partMember "PublishDate" (.string "d"), partMember "Version" (.string "1")], [], []⟩

/-- The text of the document. -/
def chainText : String :=
  "\x7b\"Version\":\"1\",\"PublishDate\":\"d\",\"Data\":[\x7b\"n\":[1]\x7d," ++
    "\x7b\"m\":\"k\",\"n\":[2],\"v\":\"a\"\x7d,[\"b\",null,\"l\",7]]\x7d"

/-- The text of the later document. -/
def laterText : String :=
  "\x7b\"Later\":[\x7b\x7d],\"Data\":[\x7b\"z\":null,\"n\":[1]\x7d,\x7b\"w\":[],\"v\":\"a\"," ++
    "\"n\":[2],\"m\":\"k\"\x7d,[\"b\",null,\"l\",7]],\"PublishDate\":\"d\",\"Version\":\"1\"\x7d"

/-- A list of one index is read back at any depth but the last. -/
theorem spells_indices (n levels : Nat) : Spells (Json.value (levels + 1))
    ((Value.array [.ofNat n]).chars.map some) (.array [.ofNat n]) :=
  Json.spells_chars (.array (List.forall_mem_singleton.2 .number))
    (.array (List.forall_mem_singleton.2 .integer))

theorem holds_chainLayout : chainLayout.Holds
    [("Version", { version := some (.string "1") }),
      ("PublishDate", { publishDate := some (.string "d") }),
      ("Data", { data := some chainData })] := by
  have first : (writtenObject [("n", .array [.ofNat 1])]).Holds
      (.object (Assoc.ofList [("n", .array [.ofNat 1])])) :=
    .object nofun nofun (Json.forall₂_writtenMember (List.forall_mem_singleton.2
      (spells_indices 1 _)))
  have second : (writtenObject [("m", .string "k"), ("n", .array [.ofNat 2]),
      ("v", .string "a")]).Holds (.object (Assoc.ofList
        [("m", .string "k"), ("n", .array [.ofNat 2]), ("v", .string "a")])) := by
    refine .object nofun nofun (Json.forall₂_writtenMember ?_)
    simp only [List.forall_mem_cons, List.not_mem_nil, false_imp_iff, forall_true_iff, and_true]
    exact ⟨spells_string "k" _, spells_indices 2 _, spells_string "a" _⟩
  have last : (WrittenDescriptor.other (lastDescriptor.chars.map some)).Holds lastDescriptor := by
    refine .other (Json.spells_chars (.array ?_) (.array ?_)) fun behind finds => ?_
    · simp only [List.forall_mem_cons, List.not_mem_nil, false_imp_iff, forall_true_iff, and_true]
      exact ⟨.string, .null, .string, .number⟩
    · simp only [List.forall_mem_cons, List.not_mem_nil, false_imp_iff, forall_true_iff, and_true]
      exact ⟨.string, .null, .string, .integer⟩
    · obtain ⟨⟨⟩, -⟩ := finds.unique (Json.finds_cons rfl _)
  exact holds_writtenDocument (.cons first (.cons second (.cons last .nil)))

theorem widens_chainLayout : chainLayout.Widens laterLayout := by
  have isNewField (pair : String × Value)
      (spells : Spells (Json.value (innerLevels - 2)) (pair.2.chars.map some) pair.2)
      (unknown : ∀ field : Field, field.name ≠ pair.1) : IsNewField (Json.writtenMember pair) :=
    ⟨pair, ⟨Json.named_writtenUnder _ _, spells⟩, not_exists.2 unknown⟩
  have first : (writtenObject [("n", .array [.ofNat 1])]).Widens
      (writtenObject [("z", .null), ("n", .array [.ofNat 1])]) :=
    .object (Json.rearranged_reverse (isNewField ("z", .null) (Json.spells_chars .null .null)
      fun field => by cases field <;> decide) (by decide +kernel))
  have second : (writtenObject [("m", .string "k"), ("n", .array [.ofNat 2]),
      ("v", .string "a")]).Widens (writtenObject [("w", .array []), ("v", .string "a"),
        ("n", .array [.ofNat 2]), ("m", .string "k")]) :=
    .object (Json.rearranged_reverse (isNewField ("w", .array []) (Json.spells_chars (.array nofun)
      (.array nofun)) fun field => by cases field <;> decide) (by decide +kernel))
  have spells : Spells (Json.value 2) ((Value.array [.object []]).chars.map some)
      (.array [.object []]) :=
    Json.spells_chars (.array (List.forall_mem_singleton.2 (.object .nil nofun)))
      (.array (List.forall_mem_singleton.2 (.object nofun)))
  have later : IsNewPart (partMember "Later" (.array [.object []])) :=
    isNewPart_of_value (Json.named_writtenUnder "Later" _) (fun part => by cases part <;> decide)
      rfl spells
  refine ⟨rfl, ⟨_, .cons ⟨_, .same, rfl⟩ (.cons ⟨_, .same, rfl⟩ (.cons ⟨_, .descriptors
    (.cons ⟨_, first, rfl⟩ (.cons ⟨_, second, rfl⟩ (.cons ⟨_, .same, rfl⟩ .nil))), rfl⟩ .nil)),
    Json.rearranged_reverse later (by decide +kernel)⟩, rfl, rfl⟩

/-- From both documents the chain is built. -/
theorem buildText_laterText : chainLayout.symbols = Symbol.ofString chainText ∧
    laterLayout.symbols = Symbol.ofString laterText ∧ chainLayout.Widens laterLayout ∧
    (buildText {} chainText).1 = .ok chain ∧ (buildText {} laterText).1 = .ok chain := by
  have symbols : chainLayout.symbols = Symbol.ofString chainText := by decide +kernel
  have symbols' : laterLayout.symbols = Symbol.ofString laterText := by decide +kernel
  have read := Layout.ofSymbols_symbols holds_chainLayout (fresh_of_nodup (by decide))
  have built : (buildSymbols {} (Symbol.ofString chainText)).1 = .ok chain := by
    rw [← symbols]
    exact buildSymbols_eq_ok_iff.2 ⟨_, read, .of_decodeFrom chain rfl⟩
  obtain ⟨-, widened⟩ := buildSymbols_widened (Json.finds_cons rfl _) built
  refine ⟨symbols, symbols', widens_chainLayout, built, ?_⟩
  have built' := widened chainLayout laterLayout _ holds_chainLayout symbols widens_chainLayout {}
  rw [symbols'] at built'
  exact built'

end Builder

end EvidenceTree
