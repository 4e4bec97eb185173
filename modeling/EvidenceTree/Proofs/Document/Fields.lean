import EvidenceTree.Proofs.Document.Descriptors

/-!
# Descriptors with another field

Of the same descriptor in another form, as an object or as a list, the fields say the same. Here is
how one field of a descriptor is changed, or put in, whatever form it has, and that the others go on
to say what they said.

* `Descriptor.changed`: what a field holds is changed, if it holds anything.
* `Descriptor.put`: a field holds something else, whether it held anything or not.
* `Descriptor.spelled`: an object whose fields hold what they are to hold.
-/

namespace EvidenceTree.Descriptor

open Json (Value)

variable {field other : Field} {change change' : Value → Value} {source source' content : Value}
  {contents : Field → Option Value} {index : Nat}

/-! ## What depends on the fields alone -/

theorem NamesKey.of_eq {key : Option String} (names : NamesKey source key)
    (same : content? source' .key = content? source .key) : NamesKey source' key := by
  cases names with
  | none silent => exact .none (same.trans silent)
  | text said => exact .text (same.trans said)

theorem NamesChildren.of_eq {children : List Nat} (names : NamesChildren source children)
    (same : held? source' .children = held? source .children) : NamesChildren source' children := by
  cases names with
  | none absent => exact .none (same.trans absent)
  | list here each => exact .list (same.trans here) each

theorem Asks.of_eq {criterion : Criterion} (asks : Asks source criterion)
    (sameLiteral : content? source' .literal = content? source .literal)
    (sameRange : content? source' .range = content? source .range) : Asks source' criterion := by
  cases asks with
  | literal said spelt => exact .literal (sameLiteral.trans said) spelt
  | range silent said spelt =>
    exact .range (sameLiteral.trans silent) (sameRange.trans said) spelt

theorem Field.apart (differ : other ≠ field) :
    other.name ≠ field.name ∧ field.place ≠ other.place := by
  cases field <;> cases other <;> first | exact absurd rfl differ | decide

/-! ## Changing what a field holds -/

/-- A descriptor with what it holds in a field changed. What it does not hold stays absent. -/
def changed (field : Field) (change : Value → Value) : Value → Value
  | .object members => .object (members.map fun member =>
      (member.1, if member.1 = field.name then change member.2 else member.2))
  | .array items => .array (items.modify field.place change)
  | value => value

theorem held?_changed_self :
    held? (changed field change source) field = (held? source field).map change := by
  cases source with
  | object members =>
    refine (Assoc.find?_map (fun key value => if key = field.name then change value else value)
      field.name members).trans ?_
    simp [held?]
  | array items => simp [held?, changed]
  | _ => rfl

/-- The other fields hold what they held. -/
theorem held?_changed (differ : other ≠ field) :
    held? (changed field change source) other = held? source other := by
  cases source with
  | object members =>
    refine (Assoc.find?_map (fun key value => if key = field.name then change value else value)
      other.name members).trans ?_
    simp [(Field.apart differ).1, held?]
  | array items => simp [held?, changed, (Field.apart differ).2]
  | _ => rfl

theorem content?_changed (differ : other ≠ field) :
    content? (changed field change source) other = content? source other := by
  unfold content?
  rw [held?_changed differ]

theorem HasForm.changed (form : HasForm source) : HasForm (changed field change source) := by
  rcases form with ⟨members, rfl⟩ | ⟨items, rfl, short⟩
  · exact .inl ⟨_, rfl⟩
  · exact .inr ⟨_, rfl, by rwa [List.length_modify]⟩

/-- A change that is taken back leaves the descriptor as it was. -/
theorem changed_changed (back : ∀ value, change' (change value) = value) :
    changed field change' (changed field change source) = source := by
  cases source with
  | object members =>
    simp only [changed, List.map_map, Value.object.injEq]
    refine List.map_id'' (fun member => ?_) members
    obtain ⟨key, value⟩ := member
    by_cases named : key = field.name <;> simp [named, back]
  | array items =>
    simp only [changed, List.modify_modify_eq, Value.array.injEq]
    exact List.ext_getElem? fun i => by simp [List.getElem?_modify, back]
  | _ => rfl

/-! ## Putting something in a field -/

/-- A descriptor that holds something else in a field. A list that ends before the field is filled
up with null. -/
def put (field : Field) (content : Value) : Value → Value
  | .object members => .object (Assoc.insert field.name content members)
  | .array items =>
    .array ((items ++ List.replicate (field.place + 1 - items.length) Value.null).set field.place
      content)
  | value => value

theorem HasForm.put (form : HasForm source) : HasForm (put field content source) := by
  rcases form with ⟨members, rfl⟩ | ⟨items, rfl, short⟩
  · exact .inl ⟨_, rfl⟩
  · refine .inr ⟨_, rfl, ?_⟩
    have inList : field.place < 5 := by cases field <;> decide
    rw [List.length_set, List.length_append, List.length_replicate]
    omega

theorem held?_put_self (form : HasForm source) : held? (put field content source) field =
    some content := by
  rcases form with ⟨members, rfl⟩ | ⟨items, rfl, short⟩
  · exact Assoc.find?_insert_self field.name content members
  · refine List.getElem?_set_self ?_
    rw [List.length_append, List.length_replicate]
    omega

/-- The other fields of a list hold what they held, or null in front of a field that it lacked. -/
theorem held?_put (differ : other ≠ field) : held? (put field content source) other =
    held? source other ∨ other.place < field.place ∧ held? source other = none ∧
      held? (put field content source) other = some .null := by
  obtain ⟨otherName, otherPlace⟩ := Field.apart differ
  cases source with
  | object members => exact .inl (Assoc.find?_insert_of_ne content members otherName.symm)
  | array items =>
    have here : held? (put field content (.array items)) other =
        (items ++ List.replicate (field.place + 1 - items.length) Value.null)[other.place]? :=
      List.getElem?_set_ne otherPlace
    rw [here, List.getElem?_append, List.getElem?_replicate]
    by_cases inItems : other.place < items.length
    · exact .inl (if_pos inItems)
    · have absent : held? (.array items) other = none :=
        List.getElem?_eq_none (Nat.not_lt.1 inItems)
      rw [if_neg inItems, absent]
      by_cases before : other.place < field.place
      · exact .inr ⟨before, rfl, if_pos (by omega)⟩
      · exact .inl (if_neg (by omega))
  | _ => exact .inl rfl

/-- The other fields say what they said. -/
theorem content?_put (differ : other ≠ field) :
    content? (put field content source) other = content? source other := by
  unfold content?
  rcases held?_put differ with same | ⟨-, absent, padded⟩
  · rw [same]
  · rw [absent, padded]
    rfl

/-- No list is filled up as far as the children, which come last. -/
theorem held?_put_children (differ : Field.children ≠ field) :
    held? (put field content source) .children = held? source .children := by
  rcases held?_put differ with same | ⟨before, -, -⟩
  · exact same
  · cases field <;> cases before <;> contradiction

/-! ## Objects from what their fields hold -/

/-- The fields in the order of their names. -/
def Field.all : List Field := [.key, .children, .range, .literal, .profile]

/-- The object whose fields hold what they are to hold. -/
def spelled (contents : Field → Option Value) : Value :=
  .object (Field.all.filterMap fun field =>
    (contents field).map fun content => (field.name, content))

deriving instance DecidableEq for Field

theorem find?_filterMap_name (fields : List Field) :
    Assoc.find? field.name (fields.filterMap fun field =>
      (contents field).map fun content => (field.name, content)) =
        if field ∈ fields then contents field else none := by
  induction fields with
  | nil => rfl
  | cons first rest ih =>
    by_cases same : first = field
    · subst same
      rw [if_pos List.mem_cons_self]
      cases held : contents first with
      | none =>
        rw [List.filterMap_cons_none (by rw [held]; rfl), ih, held, ite_self]
      | some content =>
        rw [List.filterMap_cons_some (by rw [held]; rfl)]
        exact if_pos rfl
    · have later : field ∈ first :: rest ↔ field ∈ rest :=
        ⟨fun isField => (List.mem_cons.1 isField).resolve_left (Ne.symm same),
          List.mem_cons_of_mem first⟩
      rw [if_congr later rfl rfl, ← ih]
      cases held : contents first with
      | none => rw [List.filterMap_cons_none (by rw [held]; rfl)]
      | some content =>
        rw [List.filterMap_cons_some (by rw [held]; rfl)]
        exact if_neg (Field.apart (Ne.symm same)).1.symm

theorem held?_spelled : held? (spelled contents) field = contents field :=
  (find?_filterMap_name Field.all).trans (if_pos (by cases field <;> decide))

theorem content?_spelled : content? (spelled contents) field = (contents field).bind anyField := by
  unfold content?
  rw [held?_spelled]

/-! ## Indices -/

theorem SpellsIndex.lt (spells : SpellsIndex value index) : index < 2 ^ 64 := by
  rcases spells with @⟨value, bounded, natural⟩
  omega

theorem NamesChildren.lt {children : List Nat} (names : NamesChildren source children) :
    ∀ c ∈ children, c < 2 ^ 64 := by
  cases names with
  | none => nofun
  | list here each =>
    clear here
    induction each with
    | nil => nofun
    | cons spells _ ih => exact List.forall_mem_cons.2 ⟨spells.lt, ih⟩

theorem spellsIndex_ofNat (small : index < 2 ^ 64) : SpellsIndex (.ofNat index) index := by
  have spells : SpellsIndex (.ofNat index) ((min index (2 ^ 64 - 1) : Nat) : Int).toNat :=
    .integer (Int.natCast_nonneg _)
  rwa [Int.toNat_natCast, Nat.min_eq_left (by omega)] at spells

end EvidenceTree.Descriptor
