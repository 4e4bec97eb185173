import EvidenceTree.Document.Build
import Mathlib.Data.List.Forall2

/-!
# What descriptors say

A descriptor is read field by field, each by a function that may refuse it. Here stands what the
fields may hold and what a node takes from them, as relations between JSON values and what they
spell, and that reading a descriptor decides them.

* `Descriptor.Stands`: the node that a descriptor stands for at an index.
* `Descriptor.ofValue_eq_ok_iff`: a value is read as a descriptor exactly where its form and the
  kinds of its fields allow it.
* `decodeNode_eq_ok_iff`: a node is decoded exactly where its descriptor stands for it.
-/

namespace EvidenceTree

open Json (Misfit Value)

theorem bind_eq_ok_iff {ε α β : Type} {x : Except ε α} {f : α → Except ε β} {b : β} :
    (x >>= f) = .ok b ↔ ∃ a, x = .ok a ∧ f a = .ok b := by
  cases x with
  | error fault => exact ⟨nofun, nofun⟩
  | ok a =>
    constructor
    · intro run
      exact ⟨a, rfl, run⟩
    · intro both
      rcases both with ⟨_, ⟨⟩, run⟩
      exact run

theorem map_eq_ok_iff {ε α β : Type} {x : Except ε α} {f : α → β} {b : β} :
    x.map f = .ok b ↔ ∃ a, x = .ok a ∧ f a = b := by
  cases x with
  | error fault => exact ⟨nofun, nofun⟩
  | ok a =>
    constructor
    · intro run
      exact ⟨a, rfl, Except.ok.inj run⟩
    · intro both
      rcases both with ⟨_, ⟨⟩, rfl⟩
      rfl

theorem mapError_eq_ok_iff {ε ε' α : Type} {x : Except ε α} {f : ε → ε'} {a : α} :
    x.mapError f = .ok a ↔ x = .ok a := by
  cases x with
  | error fault => exact ⟨nofun, nofun⟩
  | ok b => exact ⟨fun run => congrArg Except.ok (Except.ok.inj run), fun run => by rw [run]; rfl⟩

theorem bind_eq_error_iff {ε α β : Type} {x : Except ε α} {f : α → Except ε β} {fault : ε} :
    (x >>= f) = .error fault ↔ x = .error fault ∨ ∃ a, x = .ok a ∧ f a = .error fault := by
  cases x with
  | error fault' =>
    constructor
    · intro run
      cases run
      exact .inl rfl
    · intro either
      rcases either with same | ⟨_, isOk, -⟩
      · cases same
        rfl
      · cases isOk
  | ok a =>
    constructor
    · intro run
      exact .inr ⟨a, rfl, run⟩
    · intro either
      rcases either with refused | ⟨_, ⟨⟩, run⟩
      · cases refused
      · exact run

theorem map_eq_error_iff {ε α β : Type} {x : Except ε α} {f : α → β} {fault : ε} :
    x.map f = .error fault ↔ x = .error fault := by
  cases x with
  | error fault' => exact ⟨fun run => by cases run; rfl, fun run => by cases run; rfl⟩
  | ok a => exact ⟨nofun, nofun⟩

theorem mapError_eq_error_iff {ε ε' α : Type} {x : Except ε α} {f : ε → ε'} {fault : ε'} :
    x.mapError f = .error fault ↔ ∃ cause, x = .error cause ∧ f cause = fault := by
  cases x with
  | error cause => simp [Except.mapError]
  | ok a => exact ⟨nofun, nofun⟩

theorem exists_eq_error_iff {ε α : Type} {x : Except ε α} :
    (∃ fault, x = .error fault) ↔ ¬ ∃ a, x = .ok a := by
  cases x with
  | error fault => exact ⟨fun _ => nofun, fun _ => ⟨fault, rfl⟩⟩
  | ok a => exact ⟨nofun, fun none => absurd ⟨a, rfl⟩ none⟩

theorem mapM_eq_ok_iff {ε α β : Type} {f : α → Except ε β} {items : List α} {results : List β} :
    items.mapM f = .ok results ↔
      List.Forall₂ (fun item result => f item = .ok result) items results := by
  induction items generalizing results with
  | nil =>
    rw [List.mapM_nil]
    constructor
    · intro run
      cases run
      exact .nil
    · intro all
      cases all
      rfl
  | cons item items ih =>
    rw [List.mapM_cons, bind_eq_ok_iff]
    constructor
    · intro read
      rcases read with ⟨result, first, rest⟩
      obtain ⟨results, others, ⟨⟩⟩ := bind_eq_ok_iff.1 rest
      exact .cons first (ih.1 others)
    · intro all
      rcases all with _ | ⟨first, others⟩
      exact ⟨_, first, bind_eq_ok_iff.2 ⟨_, ih.2 others, rfl⟩⟩

namespace Descriptor

/-! ## Fields -/

/-- The fields of a descriptor. -/
inductive Field where
  | literal
  | range
  | key
  | profile
  | children

/-- The name under which an object holds a field. -/
def Field.name : Field → String
  | literal => "v"
  | range => "r"
  | key => "m"
  | profile => "x"
  | children => "n"

/-- The place at which a list holds a field. -/
def Field.place : Field → Nat
  | literal => 0
  | range => 1
  | key => 2
  | profile => 3
  | children => 4

/-- What a descriptor holds in a field, null included. -/
def held? (source : Value) (field : Field) : Option Value :=
  match source with
  | .object members => Assoc.find? field.name members
  | .array items => items[field.place]?
  | _ => none

/-- What a descriptor says in a field: null says nothing. -/
def content? (source : Value) (field : Field) : Option Value := (held? source field).bind anyField

/-- A descriptor is an object, or a list of at most five items. -/
def HasForm (source : Value) : Prop :=
  (∃ members, source = .object members) ∨ ∃ items, source = .array items ∧ items.length ≤ 5

/-- A descriptor names a key, a text, or says nothing of it. -/
inductive NamesKey (source : Value) : Option String → Prop
  | none : content? source .key = none → NamesKey source none
  | text {s : String} : content? source .key = some (.string s) → NamesKey source (some s)

/-- A number is an index: an integer of 64 bits that is not negative. -/
inductive SpellsIndex : Value → Nat → Prop
  | integer {value : Int} {bounded : -(2 ^ 63) ≤ value ∧ value < 2 ^ 64} :
      0 ≤ value → SpellsIndex (.number (.integer value bounded)) value.toNat

/-- A descriptor names its children by a list of indices, or has none. -/
inductive NamesChildren (source : Value) : List Nat → Prop
  | none : held? source .children = none → NamesChildren source []
  | list {items : List Value} {children : List Nat} : held? source .children = some (.array items) →
      List.Forall₂ SpellsIndex items children → NamesChildren source children

/-! ## What a node asks -/

/-- The text that a scalar spells: its own, or the digits of a number, a float without an
exponent. -/
inductive SpellsScalar : Value → String → Prop
  | string {s : String} : SpellsScalar (.string s) s
  | bool {value : Bool} : SpellsScalar (.bool value) (if value then "true" else "false")
  | integer {value : Int} {bounded : -(2 ^ 63) ≤ value ∧ value < 2 ^ 64} :
      SpellsScalar (.number (.integer value bounded)) (Json.Number.integer value bounded).text
  | float {value : Finite64} : SpellsScalar (.number (.float value)) (String.ofList value.plain)

/-- The text that a literal spells, a scalar or a list that a scalar stands first in. -/
inductive SpellsLiteral : Value → String → Prop
  | scalar {value : Value} {text : String} : SpellsScalar value text → SpellsLiteral value text
  | first {value : Value} {rest : List Value} {text : String} :
      SpellsScalar value text → SpellsLiteral (.array (value :: rest)) text

/-- The bounds that a range spells, a list of two numbers or a list of such a list. -/
inductive SpellsRange : Value → Finite64 → Finite64 → Prop
  | flat {low high : Json.Number} :
      SpellsRange (.array [.number low, .number high]) low.toFinite high.toFinite
  | wrapped {low high : Json.Number} :
      SpellsRange (.array [.array [.number low, .number high]]) low.toFinite high.toFinite

/-- What a descriptor other than the root's asks: its literal, or where it has none its range. -/
inductive Asks (source : Value) : Criterion → Prop
  | literal {value : Value} {text : String} : content? source .literal = some value →
      SpellsLiteral value text → Asks source (.literal text)
  | range {value : Value} {low high : Finite64} : content? source .literal = none →
      content? source .range = some value → SpellsRange value low high →
      Asks source (.range low high)

/-- The node that a descriptor stands for at an index. -/
structure Stands (index : Nat) (source : Value) (node : Node) : Prop where
  form : HasForm source
  index_eq : node.index = index
  root : index = 0 → node.criterion = .root
  asks : index ≠ 0 → Asks source node.criterion
  key : NamesKey source node.key
  profile : node.profile = (content? source .profile).bind profileOf?
  children : NamesChildren source node.children

variable {source value : Value} {index size : Nat} {descriptor : Descriptor}

/-! ## Reading the fields -/

theorem keyField_iff {key : Option String} :
    ((held? source .key).map keyField).getD (.ok none) = .ok key ↔ NamesKey source key := by
  have said : content? source .key = (held? source .key).bind anyField := rfl
  constructor
  · intro run
    cases held : held? source .key with
    | none =>
      rw [held] at run said
      cases run
      exact .none said
    | some value =>
      rw [held] at run said
      cases value with
      | null =>
        cases run
        exact .none said
      | string s =>
        cases run
        exact .text said
      | _ => cases run
  · intro names
    cases held : held? source .key with
    | none =>
      rw [held] at said
      rcases names with silent | text
      · rfl
      · cases said.symm.trans text
    | some value =>
      rw [held] at said
      rcases names with silent | text
      · cases value <;> first | rfl | cases said.symm.trans silent
      · cases value <;> first | cases said.symm.trans text
        rfl

theorem childIndex_iff {child : Nat} : childIndex value = .ok child ↔ SpellsIndex value child := by
  constructor
  · intro run
    unfold childIndex at run
    split at run
    · split at run
      · rename_i natural
        cases run
        exact .integer natural
      · cases run
    · cases run
  · intro spells
    rcases spells with ⟨natural⟩
    exact if_pos natural

theorem childrenField_iff {children : List Nat} :
    ((held? source .children).map childrenField).getD (.ok []) = .ok children ↔
      NamesChildren source children := by
  constructor
  · intro run
    cases held : held? source .children with
    | none =>
      rw [held] at run
      cases run
      exact .none held
    | some value =>
      rw [held] at run
      cases value with
      | array items =>
        have each := mapM_eq_ok_iff.1 run
        exact .list held (each.imp fun _ _ => childIndex_iff.1)
      | _ => cases run
  · intro names
    rcases names with absent | ⟨held, each⟩
    · rw [absent]
      rfl
    · rw [held]
      exact mapM_eq_ok_iff.2 (each.imp fun _ _ => childIndex_iff.2)

/-- A descriptor names one list of children. -/
theorem NamesChildren.unique {children children' : List Nat} (names : NamesChildren source children)
    (names' : NamesChildren source children') : children = children' := by
  have run := childrenField_iff.2 names
  rw [childrenField_iff.2 names'] at run
  exact (Except.ok.inj run).symm

/-! ## Reading a descriptor -/

/-- A value is read as a descriptor exactly where its form and the kinds of its fields allow it. -/
theorem ofValue_eq_ok_iff :
    ofValue source = .ok descriptor ↔
      HasForm source ∧ NamesKey source descriptor.key ∧ NamesChildren source descriptor.children ∧
        descriptor.literal = content? source .literal ∧
        descriptor.range = content? source .range ∧
        descriptor.profile = content? source .profile := by
  obtain ⟨literal, range, key, profile, children⟩ := descriptor
  constructor
  · intro run
    cases source with
    | object members =>
      obtain ⟨key, keyRead, run⟩ := bind_eq_ok_iff.1 run
      obtain ⟨children, childrenRead, ⟨⟩⟩ := bind_eq_ok_iff.1 run
      exact ⟨.inl ⟨members, rfl⟩, keyField_iff.1 keyRead, childrenField_iff.1 childrenRead, rfl,
        rfl, rfl⟩
    | array items =>
      obtain ⟨key, keyRead, run⟩ := bind_eq_ok_iff.1 run
      obtain ⟨children, childrenRead, run⟩ := bind_eq_ok_iff.1 run
      split at run
      · cases run
      · rename_i short
        cases run
        exact ⟨.inr ⟨items, rfl, Nat.not_lt.1 short⟩, keyField_iff.1 keyRead,
          childrenField_iff.1 childrenRead, rfl, rfl, rfl⟩
    | _ => cases run
  · intro fields
    rcases fields with ⟨form, names, namesChildren, rfl, rfl, rfl⟩
    -- both forms read the key before the children; the length of a list is looked at last
    rcases form with ⟨members, rfl⟩ | ⟨items, rfl, short⟩
    · exact bind_eq_ok_iff.2 ⟨key, keyField_iff.2 names,
        bind_eq_ok_iff.2 ⟨children, childrenField_iff.2 namesChildren, rfl⟩⟩
    · refine bind_eq_ok_iff.2 ⟨key, keyField_iff.2 names,
        bind_eq_ok_iff.2 ⟨children, childrenField_iff.2 namesChildren, ?_⟩⟩
      exact if_neg (Nat.not_lt.2 short)

/-! ## Reading what a node asks -/

theorem scalarLiteral?_iff {text : String} :
    scalarLiteral? value = some text ↔ SpellsScalar value text := by
  constructor
  · intro run
    unfold scalarLiteral? at run
    split at run
    · cases run
      exact .string
    · cases run
      exact .integer
    · cases run
      exact .float
    · cases run
      exact .bool
    · cases run
  · intro spells
    cases spells <;> rfl

theorem literal?_iff {text : String} : literal? value = some text ↔ SpellsLiteral value text := by
  constructor
  · intro run
    unfold literal? at run
    split at run
    · exact .first (scalarLiteral?_iff.1 run)
    · exact .scalar (scalarLiteral?_iff.1 run)
  · intro spells
    rcases spells with scalar | scalar
    · cases scalar <;> rfl
    · exact scalarLiteral?_iff.2 scalar

theorem bound?_iff {x : Finite64} :
    bound? value = some x ↔ ∃ n : Json.Number, value = .number n ∧ n.toFinite = x := by
  cases value with
  | number n =>
    constructor
    · intro run
      cases run
      exact ⟨n, rfl, rfl⟩
    · intro spelt
      rcases spelt with ⟨_, ⟨⟩, rfl⟩
      rfl
  | _ =>
    constructor
    · nofun
    · intro spelt
      rcases spelt with ⟨_, ⟨⟩, -⟩

theorem pair?_iff {items : List Value} {low high : Finite64} :
    pair? items = some (low, high) ↔
      ∃ m n : Json.Number, items = [.number m, .number n] ∧ m.toFinite = low ∧
        n.toFinite = high := by
  constructor
  · intro run
    unfold pair? at run
    split at run
    · rename_i first second
      obtain ⟨x, lowRead, run⟩ := Option.bind_eq_some_iff.1 run
      obtain ⟨y, highRead, ⟨⟩⟩ := Option.bind_eq_some_iff.1 run
      obtain ⟨m, rfl, rfl⟩ := bound?_iff.1 lowRead
      obtain ⟨n, rfl, rfl⟩ := bound?_iff.1 highRead
      exact ⟨m, n, rfl, rfl, rfl⟩
    · cases run
  · intro spelt
    rcases spelt with ⟨m, n, rfl, rfl, rfl⟩
    rfl

theorem range?_iff {low high : Finite64} :
    range? value = some (low, high) ↔ SpellsRange value low high := by
  constructor
  · intro run
    unfold range? at run
    split at run
    · obtain ⟨m, n, rfl, rfl, rfl⟩ := pair?_iff.1 run
      exact .wrapped
    · obtain ⟨m, n, rfl, rfl, rfl⟩ := pair?_iff.1 run
      exact .flat
    · cases run
  · intro spells
    cases spells <;> rfl

/-- What a node asks above the root is decided by the literal, null or not, before the range. -/
theorem criterion_iff {criterion : Criterion}
    (literal : descriptor.literal = content? source .literal)
    (range : descriptor.range = content? source .range) (above : index ≠ 0) :
    descriptor.criterion index = .ok criterion ↔ Asks source criterion := by
  unfold Descriptor.criterion
  rw [if_neg above, literal, range]
  constructor
  · intro run
    split at run
    · rename_i value said
      split at run
      · rename_i text spelt
        cases run
        exact .literal said (literal?_iff.1 spelt)
      · cases run
    · rename_i value silent said
      split at run
      · rename_i low high spelt
        cases run
        exact .range silent said (range?_iff.1 spelt)
      · cases run
    · cases run
  · intro asks
    rcases asks with ⟨said, spelt⟩ | ⟨silent, said, spelt⟩
    · rw [said]
      dsimp only
      rw [literal?_iff.2 spelt]
    · rw [silent, said]
      dsimp only
      rw [range?_iff.2 spelt]

/-- A literal is what a node asks, whatever range stands beside it. -/
example : Asks (.array [.string "a", .bool true]) (.literal "a") := .literal rfl (.scalar .string)

/-! ## Decoding a node -/

variable {node : Node}

theorem node_eq_ok_iff :
    descriptor.node index = .ok node ↔
      descriptor.criterion index = .ok node.criterion ∧ node.index = index ∧
        node.key = descriptor.key ∧ node.profile = descriptor.profileId ∧
        node.children = descriptor.children := by
  obtain ⟨place, criterion, key, profile, children⟩ := node
  unfold Descriptor.node
  cases descriptor.criterion index with
  | error defect => exact ⟨nofun, nofun⟩
  | ok asked =>
    constructor
    · intro run
      cases run
      exact ⟨rfl, rfl, rfl, rfl, rfl⟩
    · intro made
      rcases made with ⟨⟨⟩, rfl, rfl, rfl, rfl⟩
      rfl

/-- A descriptor stands for the nodes that are made of it. -/
theorem stands_iff :
    Stands index source node ↔
      ∃ descriptor, ofValue source = .ok descriptor ∧ descriptor.node index = .ok node := by
  constructor
  · intro stands
    let descriptor : Descriptor :=
      { literal := content? source .literal
        range := content? source .range
        key := node.key
        profile := content? source .profile
        children := node.children }
    refine ⟨descriptor,
      ofValue_eq_ok_iff.2 ⟨stands.form, stands.key, stands.children, rfl, rfl, rfl⟩,
      node_eq_ok_iff.2 ⟨?_, stands.index_eq, rfl, stands.profile, rfl⟩⟩
    -- the root's fields are read like those of any node, but none of them is a question
    by_cases first : index = 0
    · rw [stands.root first]
      exact if_pos first
    · exact (criterion_iff rfl rfl first).2 (stands.asks first)
  · intro made
    rcases made with ⟨descriptor, read, made⟩
    obtain ⟨form, key, children, literal, range, profile⟩ := ofValue_eq_ok_iff.1 read
    obtain ⟨asked, index_eq, key_eq, profile_eq, children_eq⟩ := node_eq_ok_iff.1 made
    exact
      { form := form
        index_eq := index_eq
        root := fun first => (criterion_eq_root_iff asked).2 first
        asks := fun above => (criterion_iff literal range above).1 asked
        key := key_eq ▸ key
        profile := by rw [profile_eq, profileId, profile]
        children := children_eq ▸ children }

/-- A descriptor stands for one node at an index. -/
theorem Stands.unique {node' : Node} (stands : Stands index source node)
    (stands' : Stands index source node') : node = node' := by
  obtain ⟨descriptor, read, made⟩ := stands_iff.1 stands
  obtain ⟨descriptor', read', made'⟩ := stands_iff.1 stands'
  cases read.symm.trans read'
  exact Except.ok.inj (made.symm.trans made')

/-- A descriptor stands for a node where its fields can be read and, above the root, it asks
something. -/
theorem exists_stands_iff :
    (∃ node, Stands index source node) ↔
      HasForm source ∧ (∃ key, NamesKey source key) ∧ (∃ children, NamesChildren source children) ∧
        (index ≠ 0 → ∃ criterion, Asks source criterion) := by
  constructor
  · intro stood
    rcases stood with ⟨node, stands⟩
    exact ⟨stands.form, ⟨_, stands.key⟩, ⟨_, stands.children⟩, fun above => ⟨_, stands.asks above⟩⟩
  · intro fields
    rcases fields with ⟨form, ⟨key, names⟩, ⟨children, namesChildren⟩, asks⟩
    by_cases first : index = 0
    · exact ⟨⟨index, .root, key, _, children⟩, form, rfl, fun _ => rfl, absurd first, names, rfl,
        namesChildren⟩
    · obtain ⟨criterion, asked⟩ := asks first
      exact ⟨⟨index, criterion, key, _, children⟩, form, rfl, fun zero => absurd zero first,
        fun _ => asked, names, rfl, namesChildren⟩

end Descriptor

open Descriptor

/-- A node is decoded exactly where its descriptor stands for it and its children are in bounds. -/
theorem decodeNode_eq_ok_iff {size index : Nat} {source : Value} {node : Node} :
    decodeNode size index source = .ok node ↔
      Stands index source node ∧ ∀ c ∈ node.children, c < size := by
  have inBounds {children : List Nat} : (children.find? fun child => size ≤ child) = none ↔
      ∀ c ∈ children, c < size := by
    simp only [List.find?_eq_none, decide_eq_true_eq, Nat.not_le]
  rw [stands_iff]
  unfold decodeNode
  constructor
  · intro run
    split at run
    · cases run
    · rename_i descriptor read
      split at run
      · cases run
      · rename_i made
        split at run
        · cases run
        · rename_i noneOut
          cases run
          exact ⟨⟨descriptor, read, made⟩, inBounds.1 noneOut⟩
  · intro stood
    rcases stood with ⟨⟨descriptor, read, made⟩, bounded⟩
    rw [read]
    dsimp only
    rw [made]
    dsimp only
    rw [inBounds.2 bounded]

end EvidenceTree
