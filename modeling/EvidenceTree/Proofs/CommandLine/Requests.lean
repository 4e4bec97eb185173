import EvidenceTree.Proofs.CommandLine.Batch
import EvidenceTree.Proofs.Evidence.Pairs

/-!
# Requests to resolve evidence

A request brings its evidence in two forms: a record in a file, whose values have kinds, and pairs,
which are texts. They are put together before any tree is opened. So a pair that is none ends the
run, whatever the tree file holds, and otherwise the tree is asked with the pairs over the record.

* `CommandLine.GivesRecord`: the record that a request names.
* `CommandLine.Resolves`: an answer that says one resolution.
* `CommandLine.resolve_answer`: what any request is answered.
-/

namespace EvidenceTree.CommandLine

open Evidence (Record Source IsPair Merges)

variable {fs : FileSystem} {env : Environment} {settingsFile : Option String}
  {settings : Settings} {request : ResolveRequest} {record : Record}

/-! ## Gathering evidence -/

/-- A request gives a record: the object in the file that it names, or nothing if it names none. -/
inductive GivesRecord (fs : FileSystem) : Option String → Record → Prop
  | file {path : String} {record : Record} : loadJson fs path = .ok (.object record) →
      GivesRecord fs (some path) record
  | none : GivesRecord fs none []

/-- Evidence is gathered by putting the pairs over the values of the record. -/
theorem gather_eq (given : GivesRecord fs request.recordFile record) :
    gather fs request =
      (Evidence.readPairsOnto record.values request.pairs).mapError .pair := by
  unfold gather
  generalize request.recordFile = file at given
  cases given with
  | none => rfl
  | file loaded =>
    dsimp only
    unfold loadRecord
    rw [loaded]
    rfl

/-- The values of a record that is given are looked up as in the record. -/
theorem GivesRecord.ofAssoc_values {file : Option String} (given : GivesRecord fs file record) :
    Source.ofAssoc record.values = Source.ofRecord record := by
  cases given with
  | none => rfl
  | file loaded =>
    have sorted : Assoc.Sorted record := hasSortedNames_of_loadJson loaded
    exact Record.ofAssoc_values sorted

theorem exists_gather (given : GivesRecord fs request.recordFile record)
    (each : ∀ pair ∈ request.pairs, IsPair pair) :
    ∃ evidence, gather fs request = .ok evidence ∧
      Merges record request.pairs (.ofAssoc evidence) := by
  obtain ⟨evidence, read, put⟩ := Evidence.exists_readPairsOnto each record.values
  refine ⟨evidence, ?_, put.merges given.ofAssoc_values⟩
  rw [gather_eq given, read]
  rfl

theorem exists_gather_eq_error (given : GivesRecord fs request.recordFile record)
    (someBad : ∃ pair ∈ request.pairs, ¬ IsPair pair) :
    ∃ cause, gather fs request = .error (.pair cause) := by
  obtain ⟨cause, refused⟩ := Evidence.exists_readPairsOnto_eq_error someBad record.values
  refine ⟨cause, ?_⟩
  rw [gather_eq given, refused]
  rfl

/-! ## Answers -/

/-- An answer says one resolution, in the form that the request asks for, and ends with success
exactly where there is a profile. -/
structure Resolves (request : ResolveRequest) (tree : Tree) (r : Resolution) (answer : Answer) :
    Prop where
  output : answer.output = resolutionText request tree r
  exitCode : answer.exitCode.number = if r.profile.isSome then 0 else 1

theorem number_resolutionCode (r : Resolution) :
    (resolutionCode r).number = if r.profile.isSome then 0 else 1 := by
  unfold resolutionCode Resolution.isMatch
  split <;> rfl

/-- A request is answered by the tree, asked with the pairs over the record, as far as all pairs are
pairs. If one is none, nothing is printed and the usage is at fault, whatever there is of a tree. -/
theorem resolve_answer (configured : Settings.load fs env settingsFile = .ok settings)
    (given : GivesRecord fs request.recordFile record) :
    ((∀ pair ∈ request.pairs, IsPair pair) →
      (∃ source, Merges record request.pairs source) ∧ ∀ source tree,
        Merges record request.pairs source → openTree fs settings request.dataFile = .ok tree →
        Resolves request tree (tree.resolve (request.matching.over settings.matching) source)
          (Invocation.answer fs env ⟨settingsFile, some (.resolve request)⟩)) ∧
    ((∃ pair ∈ request.pairs, ¬ IsPair pair) →
      (Invocation.answer fs env ⟨settingsFile, some (.resolve request)⟩).output = "" ∧ ∃ fault,
        (Invocation.answer fs env ⟨settingsFile, some (.resolve request)⟩).result = .error fault ∧
        fault.exitCode.number = 64) := by
  rw [answer_of_load configured]
  dsimp only [commandAnswer]
  unfold resolveAnswer
  constructor
  · intro each
    obtain ⟨evidence, gathered, merges⟩ := exists_gather given each
    refine ⟨⟨_, merges⟩, ?_⟩
    intro source tree merges' opened
    rw [gathered, merges'.unique merges]
    dsimp only
    rw [opened]
    exact ⟨rfl, number_resolutionCode _⟩
  · intro someBad
    obtain ⟨cause, refused⟩ := exists_gather_eq_error given someBad
    rw [refused]
    exact ⟨rfl, .pair cause, rfl, rfl⟩

/-! ### Pairs over a record -/

/-- A request with pairs over a record. -/
def shadowedRequest (pairs : List String) : ResolveRequest where
  dataFile := some "tree"
  pairs := pairs
  recordFile := some "record"

/-- The answer to a request with pairs over a record. -/
def shadowedAnswer (pairs : List String) : Answer :=
  Invocation.answer twoRecords {} ⟨none, some (.resolve (shadowedRequest pairs))⟩

/-- The last pair with the key of the record is what the tree is asked with, so the order of pairs
counts; a blank key ends the run. -/
theorem resolve_answer_shadowed :
    Merges [("k", .string "b")] ["k=c", " k =b"] (.ofAssoc [("k", .text "b")]) ∧
      (shadowedAnswer ["k=c", " k =b"]).output = "✓ 7 [path: 0 -> 1]\n" ∧
      (shadowedAnswer ["k=c", " k =b"]).exitCode.number = 0 ∧
      (shadowedAnswer [" k =b", "k=c"]).output = "✗ no match (no matching branch) [path: 0]\n" ∧
      (shadowedAnswer [" k =b", "k=c"]).exitCode.number = 1 ∧
      (shadowedAnswer ["k=c", " =b"]).output = "" ∧
      (shadowedAnswer ["k=c", " =b"]).exitCode.number = 64 := by
  have configured : Settings.load twoRecords {} none = .ok {} := rfl
  have opened : loadTree twoRecords "tree" = .ok oneProfile := loadTree_oneProfile rfl
  have given : GivesRecord twoRecords (some "record") [("k", .string "b")] :=
    .file loadJson_twoRecords.2.2
  have former : Evidence.Gives "k=c" "k" "c" := Evidence.readPair_eq_ok_iff.1 rfl
  have latter : Evidence.Gives " k =b" "k" "b" := Evidence.readPair_eq_ok_iff.1 rfl
  have isFormer : IsPair "k=c" := Evidence.isPair_iff.2 ⟨_, _, former⟩
  have isLatter : IsPair " k =b" := Evidence.isPair_iff.2 ⟨_, _, latter⟩
  have noPair : ¬ IsPair " =b" := by
    intro isPair
    obtain ⟨read, isRead⟩ := Evidence.exists_readPair_iff.2 isPair
    cases isRead
  have merges : Merges [("k", .string "b")] ["k=c", " k =b"] (.ofAssoc [("k", .text "b")]) :=
    (Evidence.PutOver.cons former (.cons latter Evidence.putOver_nil)).merges
      given.ofAssoc_values
  have reversed : Merges [("k", .string "b")] [" k =b", "k=c"] (.ofAssoc [("k", .text "c")]) :=
    (Evidence.PutOver.cons latter (.cons former Evidence.putOver_nil)).merges
      given.ofAssoc_values
  have known : oneProfile.resolve {} (.ofAssoc [("k", .text "b")]) = ⟨some 7, [0, 1], none⟩ := by
    cbv
  have unknown : oneProfile.resolve {} (.ofAssoc [("k", .text "c")]) =
      ⟨none, [0], some .noMatchingBranch⟩ := by
    cbv
  have last : Resolves (shadowedRequest ["k=c", " k =b"]) oneProfile
      (oneProfile.resolve {} (.ofAssoc [("k", .text "b")])) (shadowedAnswer ["k=c", " k =b"]) :=
    ((resolve_answer configured given).1 (by simp [shadowedRequest, isFormer, isLatter])).2 _ _
      merges opened
  have first : Resolves (shadowedRequest [" k =b", "k=c"]) oneProfile
      (oneProfile.resolve {} (.ofAssoc [("k", .text "c")])) (shadowedAnswer [" k =b", "k=c"]) :=
    ((resolve_answer configured given).1 (by simp [shadowedRequest, isFormer, isLatter])).2 _ _
      reversed opened
  rw [known] at last
  rw [unknown] at first
  obtain ⟨quiet, fault, failed, code⟩ : _ ∧ ∃ fault,
      (shadowedAnswer ["k=c", " =b"]).result = .error fault ∧ fault.exitCode.number = 64 :=
    (resolve_answer configured given).2 ⟨" =b", by simp [shadowedRequest], noPair⟩
  refine ⟨merges, last.output.trans rfl, last.exitCode, first.output.trans rfl, first.exitCode,
    quiet, ?_⟩
  unfold Answer.exitCode
  rw [failed]
  exact code

end EvidenceTree.CommandLine
