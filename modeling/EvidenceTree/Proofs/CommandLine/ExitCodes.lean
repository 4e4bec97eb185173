import EvidenceTree.Proofs.CommandLine.Requests
import EvidenceTree.Proofs.Document.Sequences

/-!
# How runs on files end

A run that is given a file can fail to open it, to read it and to make anything of it. For a tree
file each of these ends the run with a code of its own, whichever command it is given to. A file
with evidence is parsed while it is read, so that a failure to read it is taken for one to parse it.

* `CommandLine.TellsTree`: a code that tells what came of a tree file.
* `CommandLine.tree_file_code`: all commands on a tree file end with one such code.
* `CommandLine.BlamesEvidence`: what a run says of a file with evidence.
* `CommandLine.evidence_file_code`: the codes of commands on a file with evidence.
* `CommandLine.directory_code`: a directory in place of a file ends the two kinds of runs
  differently.
-/

namespace EvidenceTree.CommandLine

open Evidence (Record)

variable {fs : FileSystem} {env : Environment} {settingsFile : Option String}
  {settings : Settings} {path : String}

/-! ## Tree files -/

/-- A code tells what came of a tree file: that it was built, that its bytes were refused, that it
was not opened, or that it was opened and not read. -/
structure TellsTree (fs : FileSystem) (path : String) (builder : Builder) (code : Nat) : Prop where
  built : code = 0 ↔ ∃ bytes tree, fs.openFile path = .ok (.content bytes) ∧
    (builder.buildBytes bytes).1 = .ok tree
  refused : code = 65 ↔ ∃ bytes fault, fs.openFile path = .ok (.content bytes) ∧
    (builder.buildBytes bytes).1 = .error fault
  unopened : code = 66 ↔ ∃ fault, fs.openFile path = .error fault
  unread : code = 74 ↔ ∃ fault, fs.openFile path = .ok (.unreadable fault)

/-- How a run ends that needs nothing but a tree. -/
def loadCode : Except Failure Tree → ExitCode
  | .ok _ => .success
  | .error cause => (Fault.failure cause).exitCode

/-- A text about a tree ends as loading the tree does. -/
theorem exitCode_treeAnswer (text : Tree → String) :
    (treeAnswer fs settings (some path) text).exitCode = loadCode (loadTree fs path) := by
  have opened : openTree fs settings (some path) = loadTree fs path := rfl
  unfold treeAnswer
  rw [opened]
  cases loadTree fs path <;> rfl

/-- A verdict ends as loading the tree does: the failures that it prints are those that end other
runs with bad data. -/
theorem exitCode_validateAnswer :
    (validateAnswer fs path).exitCode = loadCode (loadTree fs path) := by
  unfold validateAnswer
  cases loadTree fs path with
  | ok tree => rfl
  | error cause =>
    dsimp only
    split
    · rename_i malformed
      cases cause with
      | tree cause =>
        cases cause with
        | malformed cause => rfl
        | read failure => cases malformed
      | _ => cases malformed
    · rfl

theorem tellsTree_loadCode (fs : FileSystem) (path : String) (builder : Builder) :
    TellsTree fs path builder (loadCode (loadTree fs path)).number := by
  cases opened : fs.openFile path with
  | error fault =>
    rw [loadTree_of_unopened opened]
    constructor <;> simp [opened, loadCode, Fault.exitCode, ExitCode.number]
  | ok stream =>
    cases stream with
    | unreadable fault =>
      rw [loadTree_of_unreadable opened]
      constructor <;> simp [opened, loadCode, Fault.exitCode, ExitCode.number]
    | content bytes =>
      have same : (builder.buildBytes bytes).1 = (Builder.buildBytes {} bytes).1 :=
        Builder.buildSymbols_eq
      rw [loadTree_of_content opened, ← same]
      cases made : (builder.buildBytes bytes).1 with
      | ok tree =>
        constructor <;> simp [opened, made, Except.mapError, loadCode, ExitCode.number]
      | error fault =>
        constructor <;>
          simp [opened, made, Except.mapError, loadCode, Fault.exitCode, ExitCode.number]

/-- All commands on a tree file end with the same code, which tells what came of the file. -/
theorem tree_file_code (configured : Settings.load fs env settingsFile = .ok settings)
    (path : String) (builder : Builder) :
    ∃ code, TellsTree fs path builder code ∧
      ∀ command ∈ [Command.validate path, .info (some path), .outline (some path)],
        (Invocation.answer fs env ⟨settingsFile, some command⟩).exitCode.number = code := by
  refine ⟨_, tellsTree_loadCode fs path builder, fun command isCommand => ?_⟩
  rw [answer_of_load configured]
  refine congrArg ExitCode.number ?_
  rcases List.mem_cons.1 isCommand with rfl | isCommand
  · exact exitCode_validateAnswer
  · rcases List.mem_cons.1 isCommand with rfl | isCommand
    · exact exitCode_treeAnswer _
    · cases List.mem_singleton.1 isCommand
      exact exitCode_treeAnswer _

/-- Commands on the file with the tree end well, and those on a file that is not there without
input. -/
theorem tree_file_code_twoRecords :
    (Invocation.answer twoRecords {} ⟨none, some (.validate "tree")⟩).exitCode.number = 0 ∧
      (Invocation.answer twoRecords {} ⟨none, some (.outline (some "tree"))⟩).exitCode.number = 0 ∧
      (Invocation.answer twoRecords {}
        ⟨none, some (.info (some "missing"))⟩).exitCode.number = 66 := by
  have configured : Settings.load twoRecords {} none = .ok {} := rfl
  have isOneProfile : loadTree twoRecords "tree" = .ok oneProfile := loadTree_oneProfile rfl
  obtain ⟨code, tells, ends⟩ := tree_file_code configured "tree" {}
  obtain ⟨missingCode, tellsMissing, endsMissing⟩ := tree_file_code configured "missing" {}
  obtain ⟨bytes, opened, built⟩ := loadTree_eq_ok_iff.1 isOneProfile
  have success : code = 0 := tells.built.2 ⟨bytes, oneProfile, opened, built⟩
  have noInput : missingCode = 66 := tellsMissing.unopened.2 ⟨.notFound, rfl⟩
  subst success noInput
  exact ⟨ends _ (.head _), ends _ (.tail _ (.tail _ (.head _))), endsMissing _ (.tail _ (.head _))⟩

/-! ## Files with evidence -/

/-- Bytes are those of a JSON value of a shape. -/
def HoldsJson (shape : Json.Value → Prop) (bytes : ByteArray) : Prop :=
  ∃ value, Json.Value.ofSymbols (Text.Symbol.ofBytes bytes) = .ok value ∧ shape value

/-- A value is a list of records. -/
def IsRecordList (value : Json.Value) : Prop :=
  ∃ items, value = .array items ∧ ∀ item ∈ items, IsRecord item

/-- A command takes evidence of a shape from the file at a path. -/
inductive ReadsEvidence (path : String) : Command → (Json.Value → Prop) → Prop
  | record {request : ResolveRequest} : request.recordFile = some path →
      ReadsEvidence path (.resolve request) IsRecord
  | records {request : BatchRequest} : request.recordsFile = path →
      ReadsEvidence path (.batch request) IsRecordList

/-- What comes of loading evidence of a shape from the file at a path. -/
inductive LoadsEvidence (fs : FileSystem) (path : String) (shape : Json.Value → Prop) {α : Type} :
    Except Failure α → Prop
  | unopened {fault : FileFault} : fs.openFile path = .error fault →
      LoadsEvidence fs path shape (.error (.unopened .openEvidence path fault))
  | unread {fault : FileFault} : fs.openFile path = .ok (.unreadable fault) →
      LoadsEvidence fs path shape (.error (.evidence path (.unread fault)))
  | refused {bytes : ByteArray} {cause : EvidenceFault} :
      fs.openFile path = .ok (.content bytes) → ¬ HoldsJson shape bytes →
      LoadsEvidence fs path shape (.error (.evidence path cause))
  | held {bytes : ByteArray} {evidence : α} : fs.openFile path = .ok (.content bytes) →
      HoldsJson shape bytes → LoadsEvidence fs path shape (.ok evidence)

/-- Evidence is loaded as the value in the file allows. -/
theorem loadsEvidence_bind {shape : Json.Value → Prop} {α : Type}
    {load : Json.Value → Except Failure α}
    (held : ∀ value, shape value → ∃ evidence, load value = .ok evidence)
    (refused : ∀ value, ¬ shape value → ∃ cause, load value = .error (.evidence path cause)) :
    LoadsEvidence fs path shape (loadJson fs path >>= load) := by
  unfold loadJson
  split
  · rename_i opened
    exact .unopened opened
  · rename_i opened
    exact .unread opened
  · rename_i bytes opened
    cases read : Json.Value.ofSymbols (Text.Symbol.ofBytes bytes) with
    | error fault =>
      refine .refused opened fun holds => ?_
      obtain ⟨value, read', -⟩ := holds
      cases read.symm.trans read'
    | ok value =>
      change LoadsEvidence fs path shape (load value)
      by_cases fits : shape value
      · obtain ⟨evidence, loads⟩ := held value fits
        rw [loads]
        exact .held opened ⟨value, read, fits⟩
      · obtain ⟨cause, refuses⟩ := refused value fits
        rw [refuses]
        refine .refused opened fun holds => ?_
        obtain ⟨value', read', fits'⟩ := holds
        cases read.symm.trans read'
        exact fits fits'

theorem loadsEvidence_loadRecord (fs : FileSystem) (path : String) :
    LoadsEvidence fs path IsRecord (loadRecord fs path) := by
  refine loadsEvidence_bind (fun value fits => ?_) fun value fits => ?_
  · obtain ⟨record, rfl⟩ := fits
    exact ⟨record, rfl⟩
  · refine ⟨.noObject value.kindName, ?_⟩
    rw [recordOf?_eq_none fits]

/-- Values that are taken for records are records. -/
theorem isRecord_of_recordsFrom {index : Nat} {items : List Json.Value} {records : List Record}
    (taken : recordsFrom index items = .ok records) : ∀ item ∈ items, IsRecord item := by
  induction items generalizing index records with
  | nil => exact nofun
  | cons item rest ih =>
    unfold recordsFrom at taken
    cases found : recordOf? item with
    | none =>
      rw [found] at taken
      cases taken
    | some record =>
      have isRecord : IsRecord item := by
        by_contra noRecord
        rw [recordOf?_eq_none noRecord] at found
        cases found
      rw [found] at taken
      obtain ⟨others, takenBehind, -⟩ := map_eq_ok_iff.1 taken
      exact List.forall_mem_cons.2 ⟨isRecord, ih takenBehind⟩

theorem loadsEvidence_loadRecords (fs : FileSystem) (path : String) :
    LoadsEvidence fs path IsRecordList (loadRecords fs path) := by
  refine loadsEvidence_bind (fun value fits => ?_) fun value fits => ?_
  · obtain ⟨items, rfl, each⟩ := fits
    obtain ⟨records, rfl⟩ := exists_records each
    refine ⟨records, ?_⟩
    dsimp only
    rw [recordsFrom_objects]
    rfl
  · cases value with
    | array items =>
      dsimp only
      cases taken : recordsFrom 0 items with
      | error cause => exact ⟨cause, rfl⟩
      | ok records => exact absurd ⟨items, rfl, isRecord_of_recordsFrom taken⟩ fits
    | _ => exact ⟨.noArray, rfl⟩

/-- A failure comes from a tree that is to be opened. -/
inductive OfTree : Failure → Prop
  | tree {cause : LoadFault} : OfTree (.tree cause)
  | noDataFile : OfTree .noDataFile
  | unopened {path : String} {fault : FileFault} : OfTree (.unopened .openTree path fault)

theorem ofTree_of_openTree {dataFile : Option String} {cause : Failure}
    (failed : openTree fs settings dataFile = .error cause) : OfTree cause := by
  unfold openTree at failed
  split at failed
  · unfold loadTree at failed
    split at failed
    · cases failed
      exact .unopened
    · obtain ⟨fault, -, rfl⟩ := mapError_eq_error_iff.1 failed
      exact .tree
  · cases failed
    exact .noDataFile

/-- A run loads evidence first: a failure to do so ends it, and others come from the tree. -/
structure EndsLoading {α : Type} (loaded : Except Failure α) (answer : Answer) : Prop where
  failed : ∀ cause, loaded = .error cause → answer.result = .error (.failure cause)
  passed : ∀ evidence, loaded = .ok evidence →
    ∀ cause, answer.result = .error (.failure cause) → OfTree cause

theorem endsLoading_resolveAnswer {request : ResolveRequest}
    (named : request.recordFile = some path) :
    EndsLoading (loadRecord fs path) (resolveAnswer fs settings request) := by
  constructor
  · intro cause failed
    have gathered : gather fs request = .error (.failure cause) := by
      unfold gather
      rw [named]
      dsimp only
      rw [failed]
      rfl
    unfold resolveAnswer
    rw [gathered]
    rfl
  · intro record loaded cause ends
    have gathered : gather fs request =
        (Evidence.readPairsOnto record.values request.pairs).mapError .pair := by
      unfold gather
      rw [named]
      dsimp only
      rw [loaded]
      rfl
    unfold resolveAnswer at ends
    rw [gathered] at ends
    cases read : Evidence.readPairsOnto record.values request.pairs with
    | error fault =>
      rw [read] at ends
      cases ends
    | ok evidence =>
      rw [read] at ends
      dsimp only [Except.mapError] at ends
      split at ends
      · rename_i opened
        cases ends
        exact ofTree_of_openTree opened
      · cases ends

theorem endsLoading_batchAnswer (request : BatchRequest) :
    EndsLoading (loadRecords fs request.recordsFile) (batchAnswer fs settings request) := by
  constructor
  · intro cause failed
    unfold batchAnswer
    rw [failed]
    rfl
  · intro records loaded cause ends
    unfold batchAnswer at ends
    rw [loaded] at ends
    dsimp only at ends
    split at ends
    · rename_i opened
      cases ends
      exact ofTree_of_openTree opened
    · cases ends

/-- A run blames a file with evidence: for bad data where the file cannot be read as where it does
not hold what it is to hold, and for no input where it cannot be opened. -/
structure BlamesEvidence (fs : FileSystem) (path : String) (shape : Json.Value → Prop)
    (answer : Answer) : Prop where
  badData : (∃ cause, answer.result = .error (.failure (.evidence path cause)) ∧
      answer.exitCode.number = 65) ↔
    (∃ fault, fs.openFile path = .ok (.unreadable fault)) ∨
      ∃ bytes, fs.openFile path = .ok (.content bytes) ∧ ¬ HoldsJson shape bytes
  noInput : (∃ fault, answer.result = .error (.failure (.unopened .openEvidence path fault)) ∧
      answer.exitCode.number = 66) ↔ ∃ fault, fs.openFile path = .error fault

theorem LoadsEvidence.blames {shape : Json.Value → Prop} {α : Type} {loaded : Except Failure α}
    {answer : Answer} (loads : LoadsEvidence fs path shape loaded)
    (ends : EndsLoading loaded answer) : BlamesEvidence fs path shape answer := by
  cases loads with
  | unopened opened =>
    have failed := ends.failed _ rfl
    constructor <;> simp [opened, failed, Answer.exitCode, Fault.exitCode, ExitCode.number]
  | unread opened =>
    have failed := ends.failed _ rfl
    constructor <;> simp [opened, failed, Answer.exitCode, Fault.exitCode, ExitCode.number]
  | refused opened refused =>
    have failed := ends.failed _ rfl
    constructor <;> simp [opened, failed, refused, Answer.exitCode, Fault.exitCode, ExitCode.number]
  | held opened held =>
    have passed := ends.passed _ rfl
    have noEvidence (cause : EvidenceFault) :
        answer.result ≠ .error (.failure (.evidence path cause)) :=
      fun failed => nomatch passed _ failed
    have noInput (fault : FileFault) :
        answer.result ≠ .error (.failure (.unopened .openEvidence path fault)) :=
      fun failed => nomatch passed _ failed
    constructor <;> simp [opened, held, noEvidence, noInput]

/-- A run that takes evidence from a file ends with bad data also where the file cannot be read. -/
theorem evidence_file_code {command : Command} {shape : Json.Value → Prop}
    (configured : Settings.load fs env settingsFile = .ok settings)
    (reads : ReadsEvidence path command shape) :
    BlamesEvidence fs path shape
      (Invocation.answer fs env ⟨settingsFile, some command⟩) := by
  rw [answer_of_load configured]
  cases reads with
  | record named =>
    exact (loadsEvidence_loadRecord fs path).blames (endsLoading_resolveAnswer named)
  | records named =>
    subst named
    exact (loadsEvidence_loadRecords fs _).blames (endsLoading_batchAnswer _)

/-! ### A directory in place of a file -/

/-- A directory where a file with records is looked for, beside a file with a tree. -/
def directoryForRecords : FileSystem where
  openFile path :=
    if path = "records.json" then .ok (.unreadable .isDirectory)
    else if path = "tree.json" then .ok (.content oneProfileText.toUTF8)
    else .error .notFound
  present _ := false

/-- A batch of the records in the directory. -/
def directoryBatch : BatchRequest where
  dataFile := some "tree.json"
  recordsFile := "records.json"

/-- A batch blames the directory for bad data, and a file that is not there for no input. -/
theorem evidence_file_code_directory :
    (Invocation.answer directoryForRecords {}
        ⟨none, some (.batch directoryBatch)⟩).exitCode.number = 65 ∧
      (Invocation.answer directoryForRecords {}
        ⟨none, some (.resolve { recordFile := some "missing" })⟩).exitCode.number = 66 := by
  have configured : Settings.load directoryForRecords {} none = .ok {} := rfl
  let missing : ResolveRequest := { recordFile := some "missing" }
  have reads : ReadsEvidence "records.json" (.batch directoryBatch) IsRecordList := .records rfl
  have readsMissing : ReadsEvidence "missing" (.resolve missing) IsRecord := .record rfl
  have blames := evidence_file_code configured reads
  have blamesMissing := evidence_file_code configured readsMissing
  obtain ⟨_, -, badData⟩ := blames.badData.2 (.inl ⟨.isDirectory, rfl⟩)
  obtain ⟨_, -, noInput⟩ := blamesMissing.noInput.2 ⟨.notFound, rfl⟩
  exact ⟨badData, noInput⟩

/-- What is bad data where evidence is expected cannot be read where a tree is. -/
theorem directory_code :
    directoryForRecords.openFile "records.json" = .ok (.unreadable .isDirectory) ∧
      (Invocation.answer directoryForRecords {}
        ⟨none, some (.batch directoryBatch)⟩).exitCode.number = 65 ∧
      (Invocation.answer directoryForRecords {}
        ⟨none, some (.resolve { recordFile := some "records.json" })⟩).exitCode.number = 65 ∧
      (Invocation.answer directoryForRecords {}
        ⟨none, some (.validate "records.json")⟩).exitCode.number = 74 :=
  ⟨rfl, rfl, rfl, rfl⟩

end EvidenceTree.CommandLine
