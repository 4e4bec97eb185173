import EvidenceTree.CommandLine.Run
import EvidenceTree.Proofs.Document.Acceptance
import EvidenceTree.Proofs.Evidence.Records
import EvidenceTree.Proofs.Text.Lines

/-!
# Records one by one and all at once

A batch answers each record of a list with the text that resolving the record alone answers, on a
line of its own. The two look evidence up in different places: a batch in the record, a single
request among the values that are copied out of it.

* `CommandLine.ResolvesAlone`: a request to resolve one record with nothing beside it.
* `CommandLine.ListsEach`: an answer with a line for each record.
* `CommandLine.batch_answer`: what a batch answers to any list of values.
-/

namespace EvidenceTree

open Text (OneLine)

/-! ## Answers on one line -/

theorem Reason.oneLine_message (reason : Reason) : OneLine reason.message := by
  cases reason <;> decide

theorem Resolution.oneLine_message (r : Resolution) : OneLine r.message := by
  have outcome : OneLine r.outcome := by
    have opening : OneLine "no match (" := by decide
    have closing : OneLine ")" := by decide
    unfold outcome
    split
    · exact .number _
    · exact (opening.append (Reason.oneLine_message _)).append closing
    · decide
  have opening : OneLine " [path: " := by decide
  have closing : OneLine "]" := by decide
  have arrow : OneLine " -> " := by decide
  unfold message
  split
  · exact outcome
  · refine ((outcome.append opening).append (arrow.intercalate fun text isNumber => ?_)).append
      closing
    obtain ⟨i, -, rfl⟩ := List.mem_map.1 isNumber
    exact .number i

/-! ## Records of a list -/

section Records

open Evidence (Record)

theorem recordsFrom_objects (index : Nat) (records : List Record) :
    recordsFrom index (records.map .object) = .ok records := by
  induction records generalizing index with
  | nil => rfl
  | cons record rest ih =>
    unfold recordsFrom
    simp only [List.map_cons, recordOf?, ih]
    rfl

/-- The first value that is no object is reported with its index. -/
theorem recordsFrom_append_cons (index : Nat) (records : List Record) {found : Json.Value}
    (noRecord : recordOf? found = none) (rest : List Json.Value) :
    recordsFrom index (records.map .object ++ found :: rest) =
      .error (.noRecord (index + records.length) found.kindName) := by
  induction records generalizing index with
  | nil =>
    unfold recordsFrom
    simp only [List.map_nil, List.nil_append, noRecord]
    rfl
  | cons record others ih =>
    unfold recordsFrom
    simp only [List.map_cons, List.cons_append, recordOf?, ih]
    rw [List.length_cons, Nat.add_right_comm, Nat.add_assoc]
    rfl

theorem loadRecords_eq {fs : FileSystem} {path : String} {items : List Json.Value}
    (read : loadJson fs path = .ok (.array items)) :
    loadRecords fs path = (recordsFrom 0 items).mapError (.evidence path) := by
  unfold loadRecords
  rw [read]
  rfl

end Records

/-- The tree that the document in a file represents is loaded. -/
theorem loadTree_of_represents {fs : FileSystem} {path : String} {bytes : ByteArray}
    {document : Document} {tree : Tree} (opened : fs.openFile path = .ok (.content bytes))
    (read : Document.ofSymbols (Text.Symbol.ofBytes bytes) = .ok document)
    (represents : document.Represents tree) : loadTree fs path = .ok tree := by
  have built : (Builder.buildBytes {} bytes).1 = .ok tree := by
    unfold Builder.buildBytes Builder.buildSymbols
    rw [read]
    exact Builder.build_eq_ok_iff.2 represents
  rw [loadTree_of_content opened, built]
  rfl

namespace CommandLine

open Evidence (Record)

variable {fs : FileSystem} {env : Environment} {settingsFile : Option String}
  {settings : Settings} {tree : Tree} {options : Options}

/-- A command is run with the settings that are loaded. -/
theorem answer_of_load (configured : Settings.load fs env settingsFile = .ok settings)
    (command : Command) :
    Invocation.answer fs env ⟨settingsFile, some command⟩ =
      commandAnswer fs env settings command := by
  unfold Invocation.answer
  rw [configured]

theorem numberedLines_eq (index : Nat) (resolutions : List Resolution) :
    numberedLines index resolutions = String.join ((resolutions.map Resolution.message).mapIdx
      fun i text => toString (index + i) ++ "\t" ++ text ++ "\n") := by
  induction resolutions generalizing index with
  | nil => rfl
  | cons r rest ih =>
    have shift (i : Nat) : index + 1 + i = index + (i + 1) := by omega
    rw [List.map_cons, List.mapIdx_cons, String.join_cons, Nat.add_zero]
    unfold numberedLines line
    simp only [ih, shift]

/-! ## A record alone -/

/-- A run has settings to load and a tree to open, and options for it. -/
def Opens (fs : FileSystem) (env : Environment) (settingsFile dataFile : Option String)
    (matching : MatchingChoice) (tree : Tree) (options : Options) : Prop :=
  ∃ settings, Settings.load fs env settingsFile = .ok settings ∧
    openTree fs settings dataFile = .ok tree ∧ matching.over settings.matching = options

/-- A request is to resolve what a file holds, with no pairs beside it and in words. -/
structure ResolvesAlone (fs : FileSystem) (value : Json.Value) (request : ResolveRequest) :
    Prop where
  record : ∃ path, request.recordFile = some path ∧ loadJson fs path = .ok value
  pairs : request.pairs = []
  json : request.json = false

theorem gather_alone {record : Record} {request : ResolveRequest}
    (alone : ResolvesAlone fs (.object record) request) :
    gather fs request = .ok (Record.values record) := by
  obtain ⟨path, named, loaded⟩ := alone.record
  have recordRead : loadRecord fs path = .ok record := by
    unfold loadRecord
    rw [loaded]
    rfl
  unfold gather
  rw [named, alone.pairs]
  dsimp only
  rw [recordRead]
  rfl

/-- What a request prints is the resolution of the evidence that is gathered for it. -/
theorem output_of_gather {request : ResolveRequest} {evidence : Assoc Evidence.Value}
    (opens : Opens fs env settingsFile request.dataFile request.matching tree options)
    (gathered : gather fs request = .ok evidence) :
    (Invocation.answer fs env ⟨settingsFile, some (.resolve request)⟩).output =
      resolutionText request tree (tree.resolve options (.ofAssoc evidence)) := by
  obtain ⟨settings, configured, opened, rfl⟩ := opens
  rw [answer_of_load configured]
  dsimp only [commandAnswer]
  unfold resolveAnswer
  rw [gathered]
  dsimp only
  rw [opened]

/-- The output for one record is the resolution of its evidence behind a mark. -/
theorem output_alone {record : Record} {request : ResolveRequest}
    (opens : Opens fs env settingsFile request.dataFile request.matching tree options)
    (alone : ResolvesAlone fs (.object record) request) :
    (Invocation.answer fs env ⟨settingsFile, some (.resolve request)⟩).output =
      resolutionText request tree (tree.resolve options (.ofRecord record)) := by
  obtain ⟨path, -, loaded⟩ := alone.record
  have sorted : Assoc.Sorted record := hasSortedNames_of_loadJson loaded
  rw [output_of_gather opens (gather_alone alone), Record.ofAssoc_values sorted]

/-! ## All records of a list -/

/-- A value is an object, and so a record. -/
def IsRecord (value : Json.Value) : Prop := ∃ record, value = .object record

theorem exists_records {items : List Json.Value} (each : ∀ item ∈ items, IsRecord item) :
    ∃ records : List Record, items = records.map .object := by
  induction items with
  | nil => exact ⟨[], rfl⟩
  | cons item rest ih =>
    obtain ⟨⟨record, rfl⟩, others⟩ := List.forall_mem_cons.1 each
    obtain ⟨records, rfl⟩ := ih others
    exact ⟨record :: records, rfl⟩

theorem recordOf?_eq_none {value : Json.Value} (noRecord : ¬ IsRecord value) :
    recordOf? value = none := by
  cases value with
  | object record => exact absurd ⟨record, rfl⟩ noRecord
  | _ => rfl

/-- An answer has one line for each value, in order: the index, a tab and the text that a request to
resolve the value alone, by the same tree and with the same options, is answered behind a mark. -/
structure ListsEach (tree : Tree) (options : Options) (items : List Json.Value)
    (answer : Answer) : Prop where
  success : answer.exitCode.number = 0
  lines : ∃ texts : List String, texts.length = items.length ∧ (∀ text ∈ texts, OneLine text) ∧
    answer.output = String.join (texts.mapIdx fun i text => toString i ++ "\t" ++ text ++ "\n") ∧
    ∀ (i : Nat) (text : String) (item : Json.Value), texts[i]? = some text → 
      items[i]? = some item → ∀ fs env settingsFile request,
        Opens fs env settingsFile request.dataFile request.matching tree options →
        ResolvesAlone fs item request → ∃ mark trace, (mark = "✓ " ∨ mark = "✗ ") ∧
          (request.trace = false → trace = "") ∧
          (Invocation.answer fs env ⟨settingsFile, some (.resolve request)⟩).output =
            mark ++ text ++ "\n" ++ trace

theorem resolutionText_eq {request : ResolveRequest} (plain : request.json = false)
    (tree : Tree) (r : Resolution) :
    ∃ mark trace, (mark = "✓ " ∨ mark = "✗ ") ∧ (request.trace = false → trace = "") ∧
      resolutionText request tree r = mark ++ r.message ++ "\n" ++ trace := by
  unfold resolutionText markedLine line
  rw [if_neg (by rw [plain]; decide)]
  refine ⟨_, _, ?_, fun quiet => if_neg (by rw [quiet]; decide), rfl⟩
  cases r.isMatch with
  | true => exact .inl rfl
  | false => exact .inr rfl

theorem listsEach_resolveAll (tree : Tree) (options : Options) (records : List Record) :
    ListsEach tree options (records.map .object)
      { output := numberedLines 0 (tree.resolveAll options (records.map .ofRecord))
        result := .ok .success } where
  success := rfl
  lines := by
    let resolutions := tree.resolveAll options (records.map .ofRecord)
    refine ⟨resolutions.map Resolution.message, ?_, fun text isText => ?_, ?_,
      fun i text item isText isItem fs env settingsFile request opens alone => ?_⟩
    · simp [resolutions, Tree.resolveAll]
    · obtain ⟨r, -, rfl⟩ := List.mem_map.1 isText
      exact r.oneLine_message
    · have numbered := numberedLines_eq 0 resolutions
      simpa only [Nat.zero_add] using numbered
    · rw [List.getElem?_map, Option.map_eq_some_iff] at isItem
      obtain ⟨record, isRecord, rfl⟩ := isItem
      have text_eq : text = (tree.resolve options (.ofRecord record)).message := by
        simpa [resolutions, Tree.resolveAll, isRecord] using isText.symm
      rw [output_alone opens alone, text_eq]
      exact resolutionText_eq alone.json tree _

/-- A batch whose records and tree are there is answered with their resolutions. -/
theorem batchAnswer_of_records {request : BatchRequest} {records : List Record}
    (read : loadJson fs request.recordsFile = .ok (.array (records.map .object)))
    (opened : openTree fs settings request.dataFile = .ok tree) :
    batchAnswer fs settings request =
      { output := batchText request
          (tree.resolveAll (request.matching.over settings.matching) (records.map .ofRecord))
        result := .ok .success } := by
  have loaded : loadRecords fs request.recordsFile = .ok records := by
    rw [loadRecords_eq read, recordsFrom_objects]
    rfl
  unfold batchAnswer
  rw [loaded]
  dsimp only
  rw [opened]

/-- A batch answers with a line for each record of a list, and with none where a value of the list
is no record: then it names the first of them. -/
theorem batch_answer {request : BatchRequest} {items : List Json.Value}
    (configured : Settings.load fs env settingsFile = .ok settings)
    (read : loadJson fs request.recordsFile = .ok (.array items)) :
    (∀ tree, openTree fs settings request.dataFile = .ok tree → request.json = false →
      (∀ item ∈ items, IsRecord item) →
      ListsEach tree (request.matching.over settings.matching) items
        (Invocation.answer fs env ⟨settingsFile, some (.batch request)⟩)) ∧
    ∀ before found rest, items = before ++ found :: rest → (∀ item ∈ before, IsRecord item) →
      ¬ IsRecord found →
      (Invocation.answer fs env ⟨settingsFile, some (.batch request)⟩).output = "" ∧ ∃ fault,
        (Invocation.answer fs env ⟨settingsFile, some (.batch request)⟩).result = .error fault ∧
        fault.exitCode.number = 65 ∧
        fault.message = "invalid evidence in " ++ request.recordsFile ++ ": record " ++
          toString before.length ++ ": expected an object, found " ++ found.kindName := by
  rw [answer_of_load configured]
  dsimp only [commandAnswer]
  constructor
  · intro tree opened plain each
    obtain ⟨records, rfl⟩ := exists_records each
    rw [batchAnswer_of_records read opened]
    unfold batchText
    rw [if_neg (by rw [plain]; decide)]
    exact listsEach_resolveAll tree _ records
  · intro before found rest split each noRecord
    subst split
    obtain ⟨records, rfl⟩ := exists_records each
    have loaded : loadRecords fs request.recordsFile =
        .error (.evidence request.recordsFile (.noRecord records.length found.kindName)) := by
      rw [loadRecords_eq read, recordsFrom_append_cons 0 records (recordOf?_eq_none noRecord) rest,
        Nat.zero_add]
      rfl
    unfold batchAnswer
    rw [loaded]
    refine ⟨rfl, .failure (.evidence request.recordsFile (.noRecord records.length found.kindName)),
      rfl, rfl, ?_⟩
    rw [List.length_map]
    have joined : ": record " = ": " ++ "record " := by decide
    unfold Fault.message Failure.message EvidenceFault.message
    rw [joined]
    simp only [String.append_assoc]

/-! ### Two records -/

/-- A document of a tree with a profile below its root, for one text under a key. -/
def oneProfileText : String :=
  "[\"1\",\"d\",[\x7b\"n\":[1]\x7d,\x7b\"m\":\"k\",\"v\":\"b\",\"x\":7\x7d]]"

/-- The descriptors in the document. -/
def oneProfileData : List Json.Value :=
  [.object [("n", .array [.number (.integer 1 (by decide))])],
    .object [("m", .string "k"), ("v", .string "b"), ("x", .number (.integer 7 (by decide)))]]

/-- The tree of the document. -/
def oneProfile : Tree where
  version := "1"
  publishDate := "d"
  nodes := #[⟨0, .root, none, none, [1]⟩, ⟨1, .literal "b", some "k", some 7, []⟩]
  wellFormed :=
    { rooted := by decide
      index_eq := by decide
      root_iff := by decide
      bounded := by decide
      acyclic := Graph.acyclic_of_ascending (by decide) }

theorem holds_oneProfileText :
    (match Document.ofSymbols (Text.Symbol.ofBytes oneProfileText.toUTF8) with
      | .ok ⟨some (.string "1"), some (.string "d"),
          some [.object [("n", .array [.number (.integer 1 _)])],
            .object [("m", .string "k"), ("v", .string "b"), ("x", .number (.integer 7 _))]]⟩ =>
        true
      | _ => false) = true := by
  decide +kernel

theorem ofSymbols_oneProfileText :
    Document.ofSymbols (Text.Symbol.ofBytes oneProfileText.toUTF8) =
      .ok ⟨some (.string "1"), some (.string "d"), some oneProfileData⟩ := by
  have found := holds_oneProfileText
  split at found
  · assumption
  · cases found

theorem loadTree_oneProfile {path : String}
    (opened : fs.openFile path = .ok (.content oneProfileText.toUTF8)) :
    loadTree fs path = .ok oneProfile :=
  loadTree_of_represents opened ofSymbols_oneProfileText (.of_decodeFrom oneProfile rfl)

/-- Files with two records, with a record and no record, with a record alone, and with a tree. -/
def twoRecords : FileSystem where
  openFile path :=
    if path = "records" then .ok (.content "[\x7b\"k\":\"b\"\x7d,\x7b\"k\":\"a\"\x7d]".toUTF8)
    else if path = "mixed" then .ok (.content "[\x7b\x7d,null]".toUTF8)
    else if path = "record" then .ok (.content "\x7b\"k\":\"b\"\x7d".toUTF8)
    else if path = "tree" then .ok (.content oneProfileText.toUTF8)
    else .error .notFound
  present _ := false

theorem holds_twoRecords :
    (match loadJson twoRecords "records", loadJson twoRecords "mixed",
        loadJson twoRecords "record" with
      | .ok (.array [.object [("k", .string "b")], .object [("k", .string "a")]]),
        .ok (.array [.object [], .null]), .ok (.object [("k", .string "b")]) => true
      | _, _, _ => false) = true := by
  decide +kernel

theorem loadJson_twoRecords :
    loadJson twoRecords "records" =
        .ok (.array [.object [("k", .string "b")], .object [("k", .string "a")]]) ∧
      loadJson twoRecords "mixed" = .ok (.array [.object [], .null]) ∧
      loadJson twoRecords "record" = .ok (.object [("k", .string "b")]) := by
  have found := holds_twoRecords
  split at found
  · exact ⟨‹_›, ‹_›, ‹_›⟩
  · cases found

/-- The tree knows the text of the first record and not that of the second. -/
theorem resolve_oneProfile :
    oneProfile.resolve {} (.ofRecord [("k", .string "b")]) = ⟨some 7, [0, 1], none⟩ ∧
      oneProfile.resolve {} (.ofRecord [("k", .string "a")]) =
        ⟨none, [0], some .noMatchingBranch⟩ := by
  constructor <;> cbv

/-- Both records of the list have a line, of which the first says what is said of the record alone;
a list with another value has none. -/
theorem batch_answer_twoRecords :
    ListsEach oneProfile {} [.object [("k", .string "b")], .object [("k", .string "a")]]
        (Invocation.answer twoRecords {}
          ⟨none, some (.batch { dataFile := some "tree", recordsFile := "records" })⟩) ∧
      (Invocation.answer twoRecords {}
          ⟨none, some (.batch { dataFile := some "tree", recordsFile := "records" })⟩).output =
        "0\t7 [path: 0 -> 1]\n1\tno match (no matching branch) [path: 0]\n" ∧
      (Invocation.answer twoRecords {}
          ⟨none, some (.resolve { dataFile := some "tree", recordFile := some "record" })⟩).output =
        "✓ 7 [path: 0 -> 1]\n" ∧
      Opens twoRecords {} none (some "tree") {} oneProfile {} ∧
      ResolvesAlone twoRecords (.object [("k", .string "b")])
        { dataFile := some "tree", recordFile := some "record" } ∧
      (Invocation.answer twoRecords {}
        ⟨none, some (.batch { dataFile := some "tree", recordsFile := "mixed" })⟩).output = "" := by
  let request : BatchRequest := { dataFile := some "tree", recordsFile := "records" }
  let mixed : BatchRequest := { dataFile := some "tree", recordsFile := "mixed" }
  let single : ResolveRequest := { dataFile := some "tree", recordFile := some "record" }
  let records : List Record := [[("k", .string "b")], [("k", .string "a")]]
  have read : loadJson twoRecords request.recordsFile = .ok (.array (records.map .object)) :=
    loadJson_twoRecords.1
  have readMixed : loadJson twoRecords mixed.recordsFile = .ok (.array [.object [], .null]) :=
    loadJson_twoRecords.2.1
  have configured : Settings.load twoRecords {} none = .ok {} := rfl
  have opened : loadTree twoRecords "tree" = .ok oneProfile := loadTree_oneProfile rfl
  have opens : Opens twoRecords {} none single.dataFile single.matching oneProfile {} :=
    ⟨{}, configured, opened, rfl⟩
  have alone : ResolvesAlone twoRecords (.object [("k", .string "b")]) single :=
    ⟨⟨_, rfl, loadJson_twoRecords.2.2⟩, rfl, rfl⟩
  have each : ∀ item ∈ records.map Json.Value.object, IsRecord item := by
    intro item isItem
    obtain ⟨record, -, rfl⟩ := List.mem_map.1 isItem
    exact ⟨record, rfl⟩
  have first : ∀ item ∈ [Json.Value.object []], IsRecord item :=
    fun item isItem => ⟨[], List.mem_singleton.1 isItem⟩
  have noRecord : ¬ IsRecord .null := nofun
  obtain ⟨known, unknown⟩ := resolve_oneProfile
  refine ⟨(batch_answer configured read).1 oneProfile opened rfl each, ?_, ?_, opens, alone, ?_⟩
  · have resolutions : oneProfile.resolveAll {} (records.map .ofRecord) =
        [⟨some 7, [0, 1], none⟩, ⟨none, [0], some .noMatchingBranch⟩] := by
      simp only [records, Tree.resolveAll, List.map_cons, List.map_nil, known, unknown]
    have answered : batchAnswer twoRecords {} request =
        { output := batchText request (oneProfile.resolveAll {} (records.map .ofRecord))
          result := .ok .success } :=
      batchAnswer_of_records read opened
    rw [answer_of_load configured]
    dsimp only [commandAnswer]
    rw [answered, resolutions]
    rfl
  · rw [output_alone opens alone, known]
    rfl
  · exact ((batch_answer configured readMixed).2 _ _ [] rfl first noRecord).1

end CommandLine

end EvidenceTree
