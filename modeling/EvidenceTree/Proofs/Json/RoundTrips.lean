import EvidenceTree.Json.Printer
import EvidenceTree.Proofs.Evidence.Records
import EvidenceTree.Proofs.Json.Parts
import EvidenceTree.Proofs.Json.Scaling
import EvidenceTree.Proofs.Text.Trimming

/-!
# Values that are read back

A value that is decoded has its members under ascending names and no more levels than its reader
allows. Such a value without a float is written on one line so that it is read back: a string in
front of anything, an integer with its digits, and a list or an object by its parts.

* `Json.isDecoded_of_takes`: what a reader gives is such a value.
* `Json.string_nameChars`: strings are read back.
* `Json.number?_integerChars`: integers are read back.
* `Json.spells_chars`, `Json.Value.ofText_text`: values without a float are read back.
-/

namespace EvidenceTree

/-! ## Members that are kept one after the other -/

namespace Assoc

variable {α : Type} {pairs assoc : Assoc α} {key : String} {value : α} {pair : String × α}

theorem eq_or_mem_of_mem_insert (isPair : pair ∈ insert key value assoc) :
    pair = (key, value) ∨ pair ∈ assoc := by
  induction assoc with
  | nil => exact .inl (List.mem_singleton.1 isPair)
  | cons first rest ih =>
    unfold insert at isPair
    split at isPair
    · rcases List.mem_cons.1 isPair with isKey | inRest
      · exact .inl isKey
      · exact .inr (List.mem_cons_of_mem _ inRest)
    · split at isPair
      · exact List.mem_cons.1 isPair
      · rcases List.mem_cons.1 isPair with rfl | inRest
        · exact .inr List.mem_cons_self
        · exact (ih inRest).imp_right (List.mem_cons_of_mem _)

theorem sorted_ofList (pairs : List (String × α)) : Sorted (ofList pairs) := by
  have each (assoc : Assoc α) (sorted : Sorted assoc) :
      Sorted (pairs.foldl (fun assoc pair => insert pair.1 pair.2 assoc) assoc) := by
    induction pairs generalizing assoc with
    | nil => exact sorted
    | cons pair rest ih => exact ih _ (sorted_insert sorted pair.1 pair.2)
  exact each [] .nil

theorem mem_of_mem_ofList (inList : pair ∈ ofList pairs) : pair ∈ pairs := by
  have each (assoc : Assoc α)
      (inEither : pair ∈ pairs.foldl (fun assoc pair => insert pair.1 pair.2 assoc) assoc) :
      pair ∈ pairs ∨ pair ∈ assoc := by
    clear inList
    induction pairs generalizing assoc with
    | nil => exact .inr inEither
    | cons first rest ih =>
      rcases ih _ inEither with inRest | inFront
      · exact .inl (List.mem_cons_of_mem _ inRest)
      · rcases eq_or_mem_of_mem_insert inFront with isFirst | inAssoc
        · exact .inl (List.mem_cons.2 (.inl isFirst))
        · exact .inr inAssoc
  exact (each [] inList).resolve_right nofun

theorem find?_eq_none_of_notMem (absent : key ∉ assoc.map Prod.fst) : find? key assoc = none :=
  find?_eq_none fun pair isPair same => absent (List.mem_map.2 ⟨pair, isPair, same⟩)

/-- Of pairs with different keys each counts. -/
theorem find?_ofList (distinct : (pairs.map Prod.fst).Nodup) (key : String) :
    find? key (ofList pairs) = find? key pairs := by
  have each (assoc : Assoc α) :
      find? key (pairs.foldl (fun assoc pair => insert pair.1 pair.2 assoc) assoc) =
        (find? key pairs).or (find? key assoc) := by
    induction pairs generalizing assoc with
    | nil => rfl
    | cons first rest ih =>
      obtain ⟨k, v⟩ := first
      obtain ⟨apart, distinct⟩ := List.nodup_cons.1 distinct
      rw [List.foldl_cons, ih distinct, find?]
      split
      · rename_i same
        subst same
        rw [find?_eq_none_of_notMem apart, find?_insert_self]
        rfl
      · rename_i differ
        rw [find?_insert_of_ne _ _ differ]
  exact (each []).trans (by rw [find?, Option.or_none])

theorem ofList_of_sorted (sorted : Sorted pairs) : ofList pairs = pairs := by
  have distinct : (pairs.map Prod.fst).Nodup :=
    List.pairwise_map.2 (sorted.imp fun less => less.ne)
  refine eq_of_mem_iff (sorted_ofList pairs) sorted ?_
  rintro ⟨key, value⟩
  rw [mem_iff_find?_eq (sorted_ofList pairs), mem_iff_find?_eq sorted, find?_ofList distinct]

end Assoc

namespace Json

open Text (Read Rest Symbol)

variable {s rest : List Symbol} {levels : Nat} {v : Value}

/-! ## Values that are decoded -/

/-- A value of so many levels at most, with the members of objects under ascending names. -/
inductive Value.IsDecoded : Nat → Value → Prop
  | null {levels : Nat} : IsDecoded levels .null
  | bool {levels : Nat} {b : Bool} : IsDecoded levels (.bool b)
  | number {levels : Nat} {n : Number} : IsDecoded levels (.number n)
  | string {levels : Nat} {text : String} : IsDecoded levels (.string text)
  | array {levels : Nat} {items : List Value} : (∀ item ∈ items, IsDecoded levels item) →
      IsDecoded (levels + 1) (.array items)
  | object {levels : Nat} {members : Assoc Value} : Assoc.Sorted members →
      (∀ member ∈ members, IsDecoded levels member.2) → IsDecoded (levels + 1) (.object members)

theorem Value.IsDecoded.mono {more : Nat} (decoded : v.IsDecoded levels) (le : levels ≤ more) :
    v.IsDecoded more := by
  induction decoded generalizing more with
  | null => exact .null
  | bool => exact .bool
  | number => exact .number
  | string => exact .string
  | array _ ih =>
    obtain ⟨more, rfl⟩ := Nat.exists_eq_add_of_le' le
    exact .array fun item inItems => ih item inItems (Nat.le_add_left _ _)
  | object sorted _ ih =>
    obtain ⟨more, rfl⟩ := Nat.exists_eq_add_of_le' le
    exact .object sorted fun member isMember => ih member isMember (Nat.le_add_left _ _)

/-- A reader gives only such values. -/
theorem isDecoded_of_takes (takes : Takes (value levels s) v rest) : v.IsDecoded levels := by
  induction levels generalizing s v rest with
  | zero =>
    obtain ⟨_, _, -, begins⟩ := takes_valueWith_iff.1 takes
    cases begins with
    | null => exact .null
    | true => exact .bool
    | false => exact .bool
    | string => exact .string
    | negative => exact .number
    | digit => exact .number
    | list none => cases none
    | object none => cases none
  | succ levels ih =>
    obtain ⟨_, _, -, begins⟩ := takes_valueWith_iff.1 takes
    cases begins with
    | null => exact .null
    | true => exact .bool
    | false => exact .bool
    | string => exact .string
    | negative => exact .number
    | digit => exact .number
    | list inner takes =>
      cases inner
      obtain ⟨_, _, -, -, all⟩ :=
        (takes_list_iff (isLocal_value levels) (opensItem_value levels)).1 takes
      refine .array fun item inItems => ?_
      obtain ⟨_, -, holds⟩ := exists_of_mem_forall₂ all inItems
      exact ih holds.content
    | object inner takes =>
      cases inner
      obtain ⟨_, _, -, -, reads⟩ :=
        (takes_members_iff (isLocal_keepMember (isLocal_value levels))).1 takes
      obtain ⟨pairs, all, rfl⟩ := readsMembers_keepMember_iff.1 reads
      refine .object (Assoc.sorted_ofList pairs) fun member isMember => ?_
      obtain ⟨_, -, holds⟩ := exists_of_mem_forall₂ all (Assoc.mem_of_mem_ofList isMember)
      exact ih holds.content

/-! ## Strings -/

theorem hexUnit_control {n : Nat} (control : n < 0x20) (s : List Symbol) :
    Takes (hexUnit (some '0' :: some '0' :: some (hexDigit (n / 16)) ::
      some (hexDigit (n % 16)) :: s)) n s := by
  have decoded : ∀ n < 0x20, hexUnit? '0' '0' (hexDigit (n / 16)) (hexDigit (n % 16)) = some n := by
    decide
  unfold hexUnit
  simp only [decoded n control]
  exact ⟨_, rfl⟩

theorem escape_control {c : Char} (control : c.toNat < 0x20) (s : List Symbol) :
    Takes (escape (some 'u' :: some '0' :: some '0' :: some (hexDigit (c.toNat / 16)) ::
      some (hexDigit (c.toNat % 16)) :: s)) c s := by
  have noSurrogate : ∀ n < 0x20, ¬ isLowSurrogate n = true ∧ ¬ isHighSurrogate n = true := by
    decide
  obtain ⟨noLow, noHigh⟩ := noSurrogate c.toNat control
  exact takes_escape_iff.2 (.inl ⟨_, rfl, takes_numericEscape_iff.2 ⟨c.toNat, s,
    hexUnit_control control s, noLow, .inr ⟨noHigh, rfl, Char.ofNat_toNat c⟩⟩⟩)

/-- A character is written with a short escape, with its number, or as it is. -/
theorem stringChar_cases (c : Char) :
    (∃ letter, shortEscape? letter = some c ∧ stringChar c = ['\\', letter]) ∨
      (c.toNat < 0x20 ∧ stringChar c =
        ['\\', 'u', '0', '0', hexDigit (c.toNat / 16), hexDigit (c.toNat % 16)]) ∨
      (c ≠ '"' ∧ c ≠ '\\' ∧ ¬ c.toNat < 0x20) ∧ stringChar c = [c] := by
  by_cases short : c ∈ ['"', '\\', '\x08', '\x0c', '\n', '\r', '\t']
  · simp only [List.mem_cons, List.not_mem_nil, or_false] at short
    refine .inl ?_
    rcases short with rfl | rfl | rfl | rfl | rfl | rfl | rfl
    · exact ⟨'"', rfl, rfl⟩
    · exact ⟨'\\', rfl, rfl⟩
    · exact ⟨'b', rfl, rfl⟩
    · exact ⟨'f', rfl, rfl⟩
    · exact ⟨'n', rfl, rfl⟩
    · exact ⟨'r', rfl, rfl⟩
    · exact ⟨'t', rfl, rfl⟩
  · simp only [List.mem_cons, List.not_mem_nil, or_false, not_or] at short
    obtain ⟨noQuote, noEscape, others⟩ := short
    unfold stringChar
    rw [if_neg noQuote, if_neg noEscape, if_neg others.1, if_neg others.2.1, if_neg others.2.2.1,
      if_neg others.2.2.2.1, if_neg others.2.2.2.2]
    split
    · rename_i control
      exact .inr (.inl ⟨control, rfl⟩)
    · rename_i plain
      exact .inr (.inr ⟨⟨noQuote, noEscape, plain⟩, rfl⟩)

/-- A character of a string is read back, and what follows it as if it stood in front. -/
theorem stringSymbols_stringChar (c : Char) {symbols : List Symbol}
    (takes : Takes (stringSymbols s) symbols rest) :
    Takes (stringSymbols ((stringChar c).map some ++ s)) (some c :: symbols) rest := by
  rcases stringChar_cases c with ⟨letter, short, written⟩ | ⟨control, written⟩ |
    ⟨⟨noQuote, noEscape, plain⟩, written⟩
  · rw [written]
    exact takes_stringSymbols_iff.2 (.inr (.inl ⟨_, c, s, symbols, rfl,
      takes_escape_iff.2 (.inr ⟨letter, rfl, short⟩), takes, rfl⟩))
  · rw [written]
    exact takes_stringSymbols_iff.2 (.inr (.inl ⟨_, c, s, symbols, rfl, escape_control control s,
      takes, rfl⟩))
  · rw [written]
    exact takes_stringSymbols_iff.2 (.inr (.inr ⟨some c, s, symbols, rfl,
      fun same => noQuote (Option.some.inj same), fun same => noEscape (Option.some.inj same),
      decide_eq_false plain, takes, rfl⟩))

/-- A string behind its opening quote. -/
def nameChars (text : String) : List Char := text.toList.flatMap stringChar ++ ['"']

theorem stringSymbols_nameChars (cs : List Char) (rest : List Symbol) :
    Takes (stringSymbols ((cs.flatMap stringChar ++ ['"']).map some ++ rest)) (cs.map some)
      rest := by
  induction cs with
  | nil => exact takes_stringSymbols_iff.2 (.inl ⟨rfl, rfl⟩)
  | cons c cs ih =>
    have read := stringSymbols_stringChar c ih
    rw [← List.append_assoc, ← List.map_append, ← List.append_assoc] at read
    exact read

theorem characters?_map_some (cs : List Char) : Symbol.characters? (cs.map some) = some cs := by
  have read := Symbol.characters?_ofString (String.ofList cs)
  rw [Symbol.ofString, String.toList_ofList] at read
  exact read

/-- A string is read back, whatever follows. -/
theorem string_nameChars (text : String) (rest : List Symbol) :
    Takes (string ((nameChars text).map some ++ rest)) text rest :=
  takes_string_iff.2 ⟨_, text.toList, stringSymbols_nameChars text.toList rest,
    characters?_map_some _, String.ofList_toList⟩

/-! ## Integers -/

theorem eq_zero_of_head?_toDigits {n : Nat} (zero : (Nat.toDigits 10 n).head? = some '0') :
    n = 0 := by
  induction n using Nat.strong_induction_on with
  | h n ih =>
    rw [Nat.toDigits_eq_if (by decide)] at zero
    split at zero
    · exact Nat.digitChar_eq_zero.1 (Option.some.inj zero)
    · rw [List.head?_append_of_ne_nil _ Nat.toDigits_ne_nil] at zero
      have := ih (n / 10) (by omega) zero
      omega

theorem spellsNumeral_integerChars (n : Int) :
    SpellsNumeral (integerChars n) ⟨n < 0, Nat.toDigits 10 n.natAbs, [], none⟩ where
  whole := isDigits_toDigits n.natAbs
  fraction := nofun
  parts := ⟨[], .none, by simp [integerChars, fractionChars]⟩

theorem isUnpadded_integerChars (n : Int) :
    (⟨n < 0, Nat.toDigits 10 n.natAbs, [], none⟩ : Numeral).IsUnpadded := by
  intro zero
  have isZero := eq_zero_of_head?_toDigits zero
  dsimp only
  rw [isZero]
  rfl

/-- An integer of 64 bits is the number that its digits are decoded as. -/
theorem number?_integerChars {n : Int} (bounded : -(2 ^ 63) ≤ n ∧ n < 2 ^ 64) :
    (⟨n < 0, Nat.toDigits 10 n.natAbs, [], none⟩ : Numeral).number? =
      some (.integer n bounded) := by
  have absorbed : absorb 0 (Nat.toDigits 10 n.natAbs) = (n.natAbs, []) := by
    have fits : Nat.ofDigitChars 10 (Nat.toDigits 10 n.natAbs) 0 < 2 ^ 64 := by
      rw [Nat.ofDigitChars_ten_toDigits]
      omega
    rw [absorb_eq fits, Nat.ofDigitChars_ten_toDigits]
  have significand : (⟨n < 0, Nat.toDigits 10 n.natAbs, [], none⟩ : Numeral).significand =
      n.natAbs := by
    unfold Numeral.significand
    rw [absorbed]
    rfl
  have integral : (⟨n < 0, Nat.toDigits 10 n.natAbs, [], none⟩ : Numeral).isIntegral = true := by
    unfold Numeral.isIntegral
    rw [absorbed]
    rfl
  unfold Numeral.number?
  rw [if_pos integral]
  simp only [significand]
  by_cases negative : n < 0
  · have small : n.natAbs ≠ 0 ∧ n.natAbs ≤ 2 ^ 63 := by omega
    simp only [negative, decide_true, Bool.not_true, Bool.false_eq_true, if_false, dif_pos small]
    simp only [Option.some.injEq, Number.integer.injEq]
    omega
  · simp only [negative, decide_false, Bool.not_false, if_true, Option.some.injEq,
      Number.integer.injEq]
    omega

/-! ## Lists and objects -/

theorem map_some_separated (parts : List (List Char)) :
    (separated [','] parts).map some = joined (parts.map (·.map some)) := by
  induction parts with
  | nil => rfl
  | cons part parts ih =>
    cases parts with
    | nil => rfl
    | cons next parts =>
      rw [separated, List.map_append, List.map_append, ih, List.append_assoc]
      · rfl
      · nofun

theorem Value.itemChars_eq_map (items : List Value) :
    Value.itemChars items = items.map Value.chars := by
  induction items with
  | nil => rfl
  | cons item rest ih => rw [Value.itemChars, ih, List.map_cons]

theorem Value.memberChars_eq_map (members : List (String × Value)) : Value.memberChars members =
    members.map fun member => stringChars member.1 ++ ':' :: member.2.chars := by
  induction members with
  | nil => rfl
  | cons member rest ih => rw [Value.memberChars, ih, List.map_cons]

/-- A value as an item that is written. -/
def writtenItem (v : Value) : Item (List Symbol) := ⟨v.chars.map some, []⟩

/-- A member with a name and nothing else but its content. -/
def writtenUnder {β : Type} (name : String) (content : β) : Member β :=
  ⟨[], (nameChars name).map some, [], content, []⟩

theorem named_writtenUnder {β : Type} (name : String) (content : β) :
    (writtenUnder name content).Named name := by
  have read := string_nameChars name []
  rw [List.append_nil] at read
  exact ⟨read, nofun, nofun, nofun⟩

/-- A name and a value as a member that is written. -/
def writtenMember (member : String × Value) : Member (List Symbol) :=
  writtenUnder member.1 (member.2.chars.map some)

theorem map_some_chars_array (items : List Value) : (Value.array items).chars.map some =
    some '[' :: listSymbols (items.map writtenItem) [] := by
  have each : (items.map Value.chars).map (·.map some) =
      (items.map writtenItem).map Item.symbols := by
    rw [List.map_map, List.map_map]
    exact List.map_congr_left fun v _ => (List.append_nil _).symm
  rw [Value.chars, Value.itemChars_eq_map, List.cons_append, List.map_cons, List.map_append,
    map_some_separated, each]
  rfl

theorem map_some_chars_object (members : Assoc Value) : (Value.object members).chars.map some =
    some '\x7b' :: objectSymbols (members.map writtenMember) [] := by
  have each : (members.map fun member => stringChars member.1 ++ ':' :: member.2.chars).map
      (·.map some) = (members.map writtenMember).map Member.symbols := by
    rw [List.map_map, List.map_map]
    refine List.map_congr_left fun member _ => ?_
    simp [writtenMember, writtenUnder, Member.symbols, stringChars, nameChars]
  rw [Value.chars, Value.memberChars_eq_map, List.cons_append, List.map_cons, List.map_append,
    map_some_separated, each]
  rfl

/-! ## Values -/

/-- No number within the value is a float. -/
inductive Value.IsFloatFree : Value → Prop
  | null : IsFloatFree .null
  | bool {b : Bool} : IsFloatFree (.bool b)
  | integer {n : Int} {bounded : -(2 ^ 63) ≤ n ∧ n < 2 ^ 64} :
      IsFloatFree (.number (.integer n bounded))
  | string {text : String} : IsFloatFree (.string text)
  | array {items : List Value} : (∀ item ∈ items, IsFloatFree item) → IsFloatFree (.array items)
  | object {members : Assoc Value} : (∀ member ∈ members, IsFloatFree member.2) →
      IsFloatFree (.object members)

theorem spells_array {items : List Value}
    (each : ∀ item ∈ items, Spells (value levels) (item.chars.map some) item) :
    Spells (value (levels + 1)) ((Value.array items).chars.map some) (.array items) := by
  have all : List.Forall₂ (Item.Holds (value levels)) (items.map writtenItem) items :=
    List.forall₂_map_left_iff.2 (List.forall₂_same.2 fun item inItems => ⟨each item inItems, nofun⟩)
  have takes := (takes_list_iff (isLocal_value levels) (opensItem_value levels)).2
    ⟨_, [], nofun, (List.append_nil _).symm, all⟩
  rw [map_some_chars_array]
  exact takes_valueWith_iff.2 ⟨_, _, finds_cons rfl _, .list rfl takes⟩

theorem forall₂_writtenMember {members : Assoc Value}
    (each : ∀ member ∈ members, Spells (value levels) (member.2.chars.map some) member.2) :
    List.Forall₂ (Member.Holds (value levels)) (members.map writtenMember) members :=
  List.forall₂_map_left_iff.2 (List.forall₂_same.2 fun member isMember =>
    ⟨named_writtenUnder member.1 _, each member isMember⟩)

theorem spells_object {members : Assoc Value} (sorted : Assoc.Sorted members)
    (each : ∀ member ∈ members, Spells (value levels) (member.2.chars.map some) member.2) :
    Spells (value (levels + 1)) ((Value.object members).chars.map some) (.object members) := by
  have kept : ReadsMembers (keepMember (value levels)) [] (members.map writtenMember) members :=
    readsMembers_keepMember_iff.2
      ⟨members, forall₂_writtenMember each, (Assoc.ofList_of_sorted sorted).symm⟩
  have takes := (takes_members_iff (isLocal_keepMember (isLocal_value levels))).2
    ⟨_, [], nofun, (List.append_nil _).symm, kept⟩
  rw [map_some_chars_object]
  exact takes_valueWith_iff.2 ⟨_, _, finds_cons rfl _, .object rfl takes⟩

/-- A value without a float is read back from what is written for it. -/
theorem spells_chars (decoded : v.IsDecoded levels) (floatFree : v.IsFloatFree) :
    Spells (value levels) (v.chars.map some) v := by
  have scalar {levels : Nat} {v : Value}
      (spells : ∀ nested, Spells (valueWith nested) (v.chars.map some) v) :
      Spells (value levels) (v.chars.map some) v := by
    cases levels <;> exact spells _
  induction decoded with
  | null => exact scalar fun _ => takes_valueWith_iff.2 ⟨_, _, finds_cons rfl _, .null⟩
  | @bool _ b =>
    cases b with
    | false => exact scalar fun _ => takes_valueWith_iff.2 ⟨_, _, finds_cons rfl _, .false⟩
    | true => exact scalar fun _ => takes_valueWith_iff.2 ⟨_, _, finds_cons rfl _, .true⟩
  | number =>
    cases floatFree with
    | @integer n bounded =>
      refine scalar fun nested => ?_
      have gives : Gives (valueWith nested ((integerChars n).map some ++ [])) _ [] :=
        valueWith_append (spellsNumeral_integerChars n) (isUnpadded_integerChars n) endsNumeral_nil
      rw [number?_integerChars bounded, List.append_nil] at gives
      exact gives
  | @string _ text =>
    refine scalar fun _ => takes_valueWith_iff.2 ⟨_, _, finds_cons rfl _, .string ?_⟩
    have read := string_nameChars text []
    rw [List.append_nil] at read
    exact read
  | array _ ih =>
    cases floatFree with
    | array each => exact spells_array fun item inItems => ih item inItems (each item inItems)
  | object sorted _ ih =>
    cases floatFree with
    | object each =>
      exact spells_object sorted fun member isMember => ih member isMember (each member isMember)

/-- A value without a float is decoded from its text again. -/
theorem Value.ofText_text (decoded : v.IsDecoded maxLevels) (floatFree : v.IsFloatFree) :
    Value.ofText v.text = .ok v := by
  obtain ⟨_, read⟩ := spells_chars decoded floatFree
  unfold Value.ofText Value.text Symbol.ofString
  rw [String.toList_ofList]
  exact bind_eq_ok_iff.2 ⟨_, read, bind_eq_ok_iff.2 ⟨(), rfl, rfl⟩⟩

end Json

end EvidenceTree
