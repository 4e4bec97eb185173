import EvidenceTree.Proofs.Evidence.Pairs
import EvidenceTree.Proofs.Evidence.Records

/-!
# What a list of pairs is read to

Pairs are read one after the other, and the first text that is no pair ends the reading: the list is
blamed for that text and for no other. Where all of them are pairs, the values come out under
ascending keys, each key with the value of its last pair. Pairs with different keys have no order
among them, so a table that is spelled out in pairs is read back whatever their order.

* `Evidence.IsFaulty`: what is wrong with a text that is no pair.
* `Evidence.readPairsOnto_eq_error_iff`: a list is blamed for the first text that is no pair.
* `Evidence.Collects`: the values that a list of pairs comes to.
* `Evidence.gives_spelling`: a key and a value that are spelled as a pair are given by it.
* `Evidence.readPairs_decides`: which lists are read, to what, and what the others are blamed for.
-/

namespace EvidenceTree

namespace Evidence

variable {pair key value : String} {pairs : List String} {known all : Assoc Value}
  {fault : PairFault}

/-! ## Texts that are no pairs -/

/-- A text is no pair: it has no equals sign, or what stands before the first one is blank all
over. -/
inductive IsFaulty (pair : String) : PairFault → Prop
  | noSeparator : '=' ∉ pair.toList → IsFaulty pair (.noSeparator pair)
  | blankKey {written rest : List Char} : pair.toList = written ++ '=' :: rest → '=' ∉ written →
      (∀ c ∈ written, Text.isBlank c = true) → IsFaulty pair (.blankKey pair)

theorem splitPair?_eq_none_iff {cs : List Char} : splitPair? cs = none ↔ '=' ∉ cs := by
  induction cs with
  | nil => simp [splitPair?]
  | cons c cs ih =>
    unfold splitPair?
    split
    · rename_i isSign
      simp [isSign]
    · rename_i noSign
      simp [ih, Ne.symm noSign]

theorem readPair_eq_error_iff : readPair pair = .error fault ↔ IsFaulty pair fault := by
  constructor
  · intro run
    unfold readPair at run
    split at run
    · rename_i noSplit
      cases run
      exact .noSeparator (splitPair?_eq_none_iff.1 noSplit)
    · rename_i written rest isSplit
      obtain ⟨split, plain⟩ := splitPair?_eq_some_iff.1 isSplit
      split at run
      · rename_i blank
        cases run
        exact .blankKey split plain (Text.trimChars_eq_nil_iff.1 blank)
      · cases run
  · intro faulty
    unfold readPair
    cases faulty with
    | noSeparator none => rw [splitPair?_eq_none_iff.2 none]
    | blankKey split plain blank =>
      rw [splitPair?_eq_some_iff.2 ⟨split, plain⟩]
      exact if_pos (Text.trimChars_eq_nil_iff.2 blank)

/-- The words for a text that is no pair quote it as it is. -/
theorem IsFaulty.message (faulty : IsFaulty pair fault) :
    fault.message = "expected key=value, got '" ++ pair ++ "'" ∧ '=' ∉ pair.toList ∨
      fault.message = "empty evidence key in '" ++ pair ++ "'" ∧ '=' ∈ pair.toList := by
  cases faulty with
  | noSeparator none => exact .inl ⟨rfl, none⟩
  | blankKey split _ _ => exact .inr ⟨rfl, by simp [split]⟩

/-- A list is blamed for the first text in it that is no pair. -/
theorem readPairsOnto_eq_error_iff :
    readPairsOnto known pairs = .error fault ↔
      ∃ before bad after, pairs = before ++ bad :: after ∧ (∀ pair ∈ before, IsPair pair) ∧
        IsFaulty bad fault := by
  induction pairs generalizing known with
  | nil =>
    constructor
    · nofun
    · rintro ⟨before, bad, after, split, -⟩
      cases before <;> cases split
  | cons pair rest ih =>
    rw [readPairsOnto, bind_eq_error_iff]
    constructor
    · rintro (refused | ⟨parts, read, refused⟩)
      · exact ⟨[], pair, rest, rfl, nofun, readPair_eq_error_iff.1 refused⟩
      · obtain ⟨before, bad, after, rfl, each, faulty⟩ := ih.1 refused
        have isPair : IsPair pair := exists_readPair_iff.1 ⟨parts, read⟩
        exact ⟨pair :: before, bad, after, rfl, List.forall_mem_cons.2 ⟨isPair, each⟩, faulty⟩
    · rintro ⟨before, bad, after, split, each, faulty⟩
      cases before with
      | nil =>
        cases split
        exact .inl (readPair_eq_error_iff.2 faulty)
      | cons first before =>
        cases split
        obtain ⟨isPair, others⟩ := List.forall_mem_cons.1 each
        obtain ⟨parts, read⟩ := exists_readPair_iff.2 isPair
        exact .inr ⟨parts, read, ih.2 ⟨before, bad, after, rfl, others, faulty⟩⟩

theorem isPair_of_readPairsOnto (run : readPairsOnto known pairs = .ok all) :
    ∀ pair ∈ pairs, IsPair pair := by
  by_contra notAll
  obtain ⟨fault, refused⟩ := exists_readPairsOnto_eq_error (by simpa using notAll) known
  cases run.symm.trans refused

/-! ## The values of a list -/

theorem readPairsOnto_sorted (sorted : Assoc.Sorted known)
    (run : readPairsOnto known pairs = .ok all) : Assoc.Sorted all := by
  induction pairs generalizing known with
  | nil =>
    cases run
    exact sorted
  | cons pair rest ih =>
    obtain ⟨⟨key, value⟩, -, run⟩ := bind_eq_ok_iff.1 run
    exact ih (Assoc.sorted_insert sorted key (.text value)) run

/-- Values are those of a list of pairs: under ascending keys, each key with the value of the last
pair that has it. -/
structure Collects (pairs : List String) (all : Assoc Value) : Prop where
  sorted : Assoc.Sorted all
  key : ∀ key, (∃ value, (key, value) ∈ all) ↔ ∃ pair ∈ pairs, ∃ text, Gives pair key text
  value : ∀ key value, (key, value) ∈ all ↔ ∃ text, value = .text text ∧ LastGives pairs key text

theorem LastGives.gives (last : LastGives pairs key value) :
    ∃ pair ∈ pairs, Gives pair key value := by
  obtain ⟨before, pair, after, rfl, gives, -⟩ := last
  exact ⟨pair, List.mem_append_right _ List.mem_cons_self, gives⟩

theorem exists_lastGives_iff :
    (∃ value, LastGives pairs key value) ↔ ∃ pair ∈ pairs, ∃ value, Gives pair key value := by
  constructor
  · rintro ⟨value, last⟩
    obtain ⟨pair, isPair, gives⟩ := last.gives
    exact ⟨pair, isPair, value, gives⟩
  · rintro ⟨pair, isPair, value, gives⟩
    exact (lastGives_or_lacks pairs key).resolve_right fun lacks => lacks pair isPair value gives

theorem PutOver.mem_iff (put : PutOver pairs [] all) (sorted : Assoc.Sorted all) {value : Value} :
    (key, value) ∈ all ↔ ∃ text, value = .text text ∧ LastGives pairs key text := by
  rw [Assoc.mem_iff_find?_eq sorted]
  constructor
  · intro found
    rcases lastGives_or_lacks pairs key with ⟨text, last⟩ | lacks
    · have same : some (.text text) = some value := (put.given key text last).symm.trans found
      exact ⟨text, (Option.some.inj same).symm, last⟩
    · cases (put.kept key lacks).symm.trans found
  · rintro ⟨text, rfl, last⟩
    exact put.given key text last

/-- Pairs that are read come to their values. -/
theorem collects_of_readPairs (run : readPairs pairs = .ok all) : Collects pairs all := by
  obtain ⟨all', run', put⟩ := exists_readPairsOnto (isPair_of_readPairsOnto run) []
  cases run.symm.trans run'
  have sorted : Assoc.Sorted all := readPairsOnto_sorted .nil run
  refine ⟨sorted, fun key => ?_, fun key value => put.mem_iff sorted⟩
  rw [← exists_lastGives_iff]
  constructor
  · rintro ⟨value, isPair⟩
    obtain ⟨text, -, last⟩ := (put.mem_iff sorted).1 isPair
    exact ⟨text, last⟩
  · rintro ⟨text, last⟩
    exact ⟨.text text, (put.mem_iff sorted).2 ⟨text, rfl, last⟩⟩

/-! ## Values spelled as pairs -/

/-- A text may be written as the key of a pair: it is not empty, has no blank character at its ends
and no equals sign. -/
structure IsKey (key : String) : Prop where
  nonempty : key ≠ ""
  trimmed : Text.trim key = key
  plain : '=' ∉ key.toList

/-- A key and a value spelled as a pair. -/
def spelling (entry : String × String) : String := entry.1 ++ "=" ++ entry.2

theorem gives_spelling (isKey : IsKey key) (value : String) :
    Gives (spelling (key, value)) key value := by
  refine ⟨key.toList, by simp [spelling], isKey.plain, ?_, ?_⟩
  · by_contra blank
    have nothing : Text.trimChars key.toList = [] :=
      Text.trimChars_eq_nil_iff.2 (by simpa using blank)
    have empty : key.toList = [] := by rw [← nothing, ← Text.toList_trim, isKey.trimmed]
    exact isKey.nonempty (String.toList_eq_nil_iff.1 empty)
  · rw [String.ofList_toList, isKey.trimmed]

/-- Pairs give the entries of the table that they spell, in whatever order. -/
theorem mem_spelling_iff {texts : Assoc String} (keys : ∀ entry ∈ texts, IsKey entry.1)
    (order : pairs.Perm (texts.map spelling)) :
    (key, value) ∈ texts ↔ ∃ pair ∈ pairs, Gives pair key value := by
  have given : ∀ {key value}, (key, value) ∈ texts → Gives (spelling (key, value)) key value :=
    fun isEntry => gives_spelling (keys _ isEntry) _
  constructor
  · intro isEntry
    exact ⟨_, order.mem_iff.2 (List.mem_map_of_mem isEntry), given isEntry⟩
  · rintro ⟨pair, isPair, gives⟩
    obtain ⟨entry, isEntry, rfl⟩ := List.mem_map.1 (order.mem_iff.1 isPair)
    obtain ⟨rfl, rfl⟩ := gives.unique (given isEntry)
    exact isEntry

/-- No pair that spells an entry of a table is put over by a later one. -/
theorem lastGives_spelling_iff {texts : Assoc String} (sorted : Assoc.Sorted texts)
    (keys : ∀ entry ∈ texts, IsKey entry.1) (order : pairs.Perm (texts.map spelling)) :
    LastGives pairs key value ↔ (key, value) ∈ texts := by
  have isEntry_of_last {value : String} (last : LastGives pairs key value) :
      (key, value) ∈ texts := (mem_spelling_iff keys order).2 last.gives
  constructor
  · exact isEntry_of_last
  · intro isEntry
    obtain ⟨pair, isPair, gives⟩ := (mem_spelling_iff keys order).1 isEntry
    obtain ⟨value', last⟩ := exists_lastGives_iff.2 ⟨pair, isPair, value, gives⟩
    have found := (Assoc.mem_iff_find?_eq sorted).1 (isEntry_of_last last)
    cases found.symm.trans ((Assoc.mem_iff_find?_eq sorted).1 isEntry)
    exact last

/-- A table that is spelled out in pairs is read back, whatever their order. -/
theorem readPairs_spelling {texts : Assoc String} (sorted : Assoc.Sorted texts)
    (keys : ∀ entry ∈ texts, IsKey entry.1) (order : pairs.Perm (texts.map spelling)) :
    readPairs pairs = .ok (texts.map fun entry => (entry.1, .text entry.2)) := by
  have each : ∀ pair ∈ pairs, IsPair pair := by
    intro pair isPair
    obtain ⟨entry, isEntry, rfl⟩ := List.mem_map.1 (order.mem_iff.1 isPair)
    exact isPair_iff.2 ⟨entry.1, entry.2, gives_spelling (keys entry isEntry) entry.2⟩
  obtain ⟨all, run, -⟩ := exists_readPairsOnto each []
  have collects : Collects pairs all := collects_of_readPairs run
  have sameKeys : Assoc.Sorted (texts.map fun entry => (entry.1, Value.text entry.2)) :=
    List.pairwise_map.2 sorted
  have same : all = texts.map fun entry => (entry.1, Value.text entry.2) := by
    refine Assoc.eq_of_mem_iff collects.sorted sameKeys ?_
    rintro ⟨key, value⟩
    rw [collects.value, List.mem_map]
    constructor
    · rintro ⟨text, rfl, last⟩
      exact ⟨(key, text), (lastGives_spelling_iff sorted keys order).1 last, rfl⟩
    · rintro ⟨⟨key, text⟩, isEntry, ⟨⟩⟩
      exact ⟨text, rfl, (lastGives_spelling_iff sorted keys order).2 isEntry⟩
  exact run.trans (congrArg _ same)

/-- A list is read exactly where all its texts are pairs, and comes to the values of the last pair
with each key. Otherwise it is blamed for the first text that is no pair, which is quoted as it is.
A table is read back from pairs that spell it, in any order. -/
theorem readPairs_decides (pairs : List String) :
    ((∃ all, readPairs pairs = .ok all) ↔ ∀ pair ∈ pairs, IsPair pair) ∧
    (∀ all, readPairs pairs = .ok all → Collects pairs all) ∧
    (∀ fault, readPairs pairs = .error fault ↔
      ∃ before bad after, pairs = before ++ bad :: after ∧ (∀ pair ∈ before, IsPair pair) ∧
        IsFaulty bad fault) ∧
    (∀ bad fault, IsFaulty bad fault →
      fault.message = "expected key=value, got '" ++ bad ++ "'" ∧ '=' ∉ bad.toList ∨
        fault.message = "empty evidence key in '" ++ bad ++ "'" ∧ '=' ∈ bad.toList) ∧
    (∀ texts : Assoc String, Assoc.Sorted texts → (∀ entry ∈ texts, IsKey entry.1) →
      pairs.Perm (texts.map spelling) →
      readPairs pairs = .ok (texts.map fun entry => (entry.1, .text entry.2))) := by
  refine ⟨⟨?_, ?_⟩, fun _ => collects_of_readPairs, fun _ => readPairsOnto_eq_error_iff,
    fun _ _ faulty => faulty.message, fun _ => readPairs_spelling⟩
  · rintro ⟨all, run⟩
    exact isPair_of_readPairsOnto run
  · intro each
    obtain ⟨all, run, -⟩ := exists_readPairsOnto each []
    exact ⟨all, run⟩

theorem isFaulty_blank : IsFaulty " =2=" (.blankKey " =2=") := by
  have split : " =2=".toList = [' '] ++ '=' :: ['2', '='] := rfl
  exact .blankKey split (by decide) (List.forall_mem_singleton.2 rfl)

/-- Two keys in the wrong order are read back, the equals sign and the blank in their values kept;
and of a pair, a text with a blank key and a text without an equals sign the second is blamed. -/
theorem readPairs_decides_swapped :
    readPairs ["w= 007", "gpu=Apple A=15"] =
        .ok [("gpu", .text "Apple A=15"), ("w", .text " 007")] ∧
      readPairs ["w=1", " =2=", "gpu"] = .error (.blankKey " =2=") := by
  have sorted : Assoc.Sorted [("gpu", "Apple A=15"), ("w", " 007")] := by
    refine List.pairwise_pair.2 ?_
    decide
  have keys : ∀ entry ∈ [("gpu", "Apple A=15"), ("w", " 007")], IsKey entry.1 := by
    refine List.forall_mem_cons.2 ⟨⟨by decide, by decide, by decide⟩,
      List.forall_mem_singleton.2 ⟨by decide, by decide, by decide⟩⟩
  have isPair : IsPair "w=1" := exists_readPair_iff.1 ⟨("w", "1"), rfl⟩
  refine ⟨(readPairs_decides _).2.2.2.2 _ sorted keys (.swap _ _ _), ?_⟩
  exact ((readPairs_decides _).2.2.1 _).2
    ⟨["w=1"], " =2=", ["gpu"], rfl, List.forall_mem_singleton.2 isPair, isFaulty_blank⟩

end Evidence

end EvidenceTree
