import EvidenceTree.Evidence.Pairs
import EvidenceTree.Proofs.Document.Descriptors
import EvidenceTree.Proofs.Text.Trimming

/-!
# What pairs give

A pair gives a value under a key, or it is none: that hangs on its first equals sign alone. Of the
pairs of a list the last one with a key counts, because each is put over what is known before it.

* `Evidence.Gives`: a pair gives a value under a key; `Evidence.LastGives`: a list of pairs does.
* `Evidence.Merges`: the source that pairs make of a record.
* `Evidence.readPair_eq_ok_iff`: what is read of a pair is what it gives.
* `Evidence.exists_readPairsOnto`, `Evidence.exists_readPairsOnto_eq_error`: lists that are all
  pairs, and lists that are not.
-/

namespace EvidenceTree

namespace Evidence

variable {pair key value : String} {pairs : List String} {known : Assoc Value}

/-! ## One pair -/

/-- A pair gives a value under a key: what stands before its first equals sign is not blank all
over and names the key, blank characters around it set aside; the value is all that follows. -/
def Gives (pair key value : String) : Prop :=
  ∃ written : List Char, pair.toList = written ++ '=' :: value.toList ∧ '=' ∉ written ∧
    (∃ c ∈ written, Text.isBlank c = false) ∧ key = Text.trim (String.ofList written)

theorem splitPair?_eq_some_iff {cs written rest : List Char} :
    splitPair? cs = some (written, rest) ↔ cs = written ++ '=' :: rest ∧ '=' ∉ written := by
  induction cs generalizing written with
  | nil => simp [splitPair?]
  | cons c cs ih =>
    unfold splitPair?
    by_cases isSign : c = '='
    · subst isSign
      rw [if_pos rfl]
      cases written with
      | nil => simp
      | cons d written =>
        refine ⟨nofun, ?_⟩
        rintro ⟨split, plain⟩
        cases split
        exact absurd List.mem_cons_self plain
    · rw [if_neg isSign, Option.map_eq_some_iff]
      constructor
      · rintro ⟨⟨front, back⟩, found, same⟩
        cases same
        obtain ⟨split, plain⟩ := ih.1 found
        rw [split]
        simp [plain, Ne.symm isSign]
      · rintro ⟨split, plain⟩
        cases written with
        | nil => exact absurd (List.cons.inj split).1 isSign
        | cons d written =>
          cases split
          have plainRest : '=' ∉ written := fun inRest => plain (List.mem_cons_of_mem _ inRest)
          exact ⟨(written, rest), ih.2 ⟨rfl, plainRest⟩, rfl⟩

/-- What is read of a pair is what it gives. -/
theorem readPair_eq_ok_iff : readPair pair = .ok (key, value) ↔ Gives pair key value := by
  unfold readPair Gives
  split
  · rename_i noSplit
    refine ⟨nofun, ?_⟩
    rintro ⟨written, split, plain, -⟩
    cases noSplit.symm.trans (splitPair?_eq_some_iff.2 ⟨split, plain⟩)
  · rename_i written rest isSplit
    obtain ⟨split, plain⟩ := splitPair?_eq_some_iff.1 isSplit
    split
    · rename_i blank
      refine ⟨nofun, ?_⟩
      rintro ⟨written', split', plain', ⟨c, isChar, notBlank⟩, -⟩
      cases isSplit.symm.trans (splitPair?_eq_some_iff.2 ⟨split', plain'⟩)
      cases notBlank.symm.trans (Text.trimChars_eq_nil_iff.1 blank c isChar)
    · rename_i someKey
      constructor
      · intro read
        cases read
        have notBlank : ∃ c ∈ written, Text.isBlank c = false := by
          simpa [Text.trimChars_eq_nil_iff] using someKey
        exact ⟨written, by simpa using split, plain, notBlank, by simp [Text.trim]⟩
      · rintro ⟨written', split', plain', -, rfl⟩
        cases isSplit.symm.trans (splitPair?_eq_some_iff.2 ⟨split', plain'⟩)
        simp [Text.trim]

/-- A text is a pair: it has an equals sign, and what stands before the first one is not blank all
over. -/
def IsPair (pair : String) : Prop :=
  ∃ written rest : List Char, pair.toList = written ++ '=' :: rest ∧ '=' ∉ written ∧
    ∃ c ∈ written, Text.isBlank c = false

theorem isPair_iff : IsPair pair ↔ ∃ key value, Gives pair key value := by
  constructor
  · rintro ⟨written, rest, split, plain, notBlank⟩
    exact ⟨_, String.ofList rest, written, by rwa [String.toList_ofList], plain, notBlank, rfl⟩
  · rintro ⟨key, value, written, split, plain, notBlank, -⟩
    exact ⟨written, _, split, plain, notBlank⟩

theorem exists_readPair_iff : (∃ read, readPair pair = .ok read) ↔ IsPair pair := by
  rw [isPair_iff, Prod.exists]
  simp only [readPair_eq_ok_iff]

theorem Gives.unique {key' value' : String} (gives : Gives pair key value)
    (gives' : Gives pair key' value') : key = key' ∧ value = value' := by
  cases (readPair_eq_ok_iff.2 gives).symm.trans (readPair_eq_ok_iff.2 gives')
  exact ⟨rfl, rfl⟩

/-! ## Lists of pairs -/

/-- The last pair of a list with this key gives this value under it. -/
def LastGives (pairs : List String) (key value : String) : Prop :=
  ∃ before pair after, pairs = before ++ pair :: after ∧ Gives pair key value ∧
    ∀ later ∈ after, ∀ other, ¬ Gives later key other

/-- No pair of a list has this key. -/
def Lacks (pairs : List String) (key : String) : Prop :=
  ∀ pair ∈ pairs, ∀ value, ¬ Gives pair key value

theorem LastGives.cases_cons {rest : List String} (last : LastGives (pair :: rest) key value) :
    LastGives rest key value ∨ Gives pair key value ∧ Lacks rest key := by
  obtain ⟨before, found, after, split, gives, lacks⟩ := last
  cases before with
  | nil =>
    cases split
    exact .inr ⟨gives, lacks⟩
  | cons first before =>
    cases split
    exact .inl ⟨before, found, after, rfl, gives, lacks⟩

/-- Values are the given ones with those of pairs put over them. -/
structure PutOver (pairs : List String) (known all : Assoc Value) : Prop where
  given : ∀ key value, LastGives pairs key value → all.find? key = some (.text value)
  kept : ∀ key, Lacks pairs key → all.find? key = known.find? key

theorem putOver_nil : PutOver [] known known where
  given := by
    rintro key value ⟨before, pair, after, split, -⟩
    simp at split
  kept := fun _ _ => rfl

theorem PutOver.cons {rest : List String} {all : Assoc Value} (gives : Gives pair key value)
    (put : PutOver rest (known.insert key (.text value)) all) :
    PutOver (pair :: rest) known all where
  given := by
    intro key' value' last
    rcases last.cases_cons with later | ⟨gives', lacks⟩
    · exact put.given key' value' later
    · obtain ⟨rfl, rfl⟩ := gives.unique gives'
      rw [put.kept key lacks, Assoc.find?_insert_self]
  kept := by
    intro key' lacks
    obtain ⟨lacksHere, lacksLater⟩ := List.forall_mem_cons.1 lacks
    have differ : key ≠ key' := by
      rintro rfl
      exact lacksHere value gives
    rw [put.kept key' lacksLater, Assoc.find?_insert_of_ne _ _ differ]

/-- A list that is all pairs is read, its values put over what is known. -/
theorem exists_readPairsOnto (each : ∀ pair ∈ pairs, IsPair pair) (known : Assoc Value) :
    ∃ all, readPairsOnto known pairs = .ok all ∧ PutOver pairs known all := by
  induction pairs generalizing known with
  | nil => exact ⟨known, rfl, putOver_nil⟩
  | cons pair rest ih =>
    obtain ⟨isPair, others⟩ := List.forall_mem_cons.1 each
    obtain ⟨⟨key, value⟩, read⟩ := exists_readPair_iff.2 isPair
    obtain ⟨all, readAll, put⟩ := ih others (known.insert key (.text value))
    refine ⟨all, ?_, put.cons (readPair_eq_ok_iff.1 read)⟩
    unfold readPairsOnto
    rw [read]
    exact readAll

/-- A list that is not all pairs is refused. -/
theorem exists_readPairsOnto_eq_error (someBad : ∃ pair ∈ pairs, ¬ IsPair pair)
    (known : Assoc Value) : ∃ fault, readPairsOnto known pairs = .error fault := by
  induction pairs generalizing known with
  | nil => simp at someBad
  | cons pair rest ih =>
    unfold readPairsOnto
    cases read : readPair pair with
    | error fault => exact ⟨fault, rfl⟩
    | ok parts =>
      have isPair : IsPair pair := exists_readPair_iff.1 ⟨parts, read⟩
      obtain ⟨bad, isNext, noPair⟩ := someBad
      rcases List.mem_cons.1 isNext with rfl | isLater
      · exact absurd isPair noPair
      · exact ih ⟨bad, isLater, noPair⟩ (known.insert parts.1 (.text parts.2))

/-! ## Pairs over a record -/

/-- A source gives the values of pairs, and under all other keys what a record gives. -/
structure Merges (record : Record) (pairs : List String) (source : Source) : Prop where
  pair : ∀ key value, LastGives pairs key value → source key = some (.text value)
  record : ∀ key, Lacks pairs key → source key = Source.ofRecord record key

theorem PutOver.merges {record : Record} {all : Assoc Value} (put : PutOver pairs known all)
    (same : Source.ofAssoc known = Source.ofRecord record) :
    Merges record pairs (.ofAssoc all) where
  pair := put.given
  record key lacks := (put.kept key lacks).trans (congrFun same key)

theorem lastGives_or_lacks (pairs : List String) (key : String) :
    (∃ value, LastGives pairs key value) ∨ Lacks pairs key := by
  induction pairs with
  | nil => exact .inr nofun
  | cons pair rest ih =>
    rcases ih with ⟨value, before, found, after, split, gives, lacks⟩ | lacks
    · exact .inl ⟨value, pair :: before, found, after, by rw [split]; rfl, gives, lacks⟩
    · by_cases gives : ∃ value, Gives pair key value
      · obtain ⟨value, gives⟩ := gives
        exact .inl ⟨value, [], pair, rest, rfl, gives, lacks⟩
      · exact .inr (List.forall_mem_cons.2 ⟨fun value here => gives ⟨value, here⟩, lacks⟩)

/-- There is one such source only. -/
theorem Merges.unique {record : Record} {source source' : Source}
    (merges : Merges record pairs source) (merges' : Merges record pairs source') :
    source = source' := by
  funext key
  rcases lastGives_or_lacks pairs key with ⟨value, last⟩ | lacks
  · rw [merges.pair key value last, merges'.pair key value last]
  · rw [merges.record key lacks, merges'.record key lacks]

end Evidence

end EvidenceTree
