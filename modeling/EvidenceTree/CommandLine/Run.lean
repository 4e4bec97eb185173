import EvidenceTree.Calendar.Reader
import EvidenceTree.CommandLine.Command
import EvidenceTree.Evidence.Pairs
import EvidenceTree.Loading.Load
import EvidenceTree.Resolution.Resolve
import EvidenceTree.Settings.Load
import EvidenceTree.Settings.Template
import EvidenceTree.Tree.Outline

/-!
# Running commands

What a command answers: the text it writes, warnings beside it, and the code the run ends with, or
the fault that ends it. Settings are loaded before anything else, and evidence before the tree. The
scripts that complete arguments in a shell are left out.
-/

namespace EvidenceTree.CommandLine

/-! ## Ends of runs -/

/-- How a run ends. -/
inductive ExitCode where
  | success
  | noMatch
  | usage
  | badData
  | noInput
  | unreadable
  | badSettings
  deriving DecidableEq

/-- The number of an exit code. -/
def ExitCode.number : ExitCode → Nat
  | success => 0
  | noMatch => 1
  | usage => 64
  | badData => 65
  | noInput => 66
  | unreadable => 74
  | badSettings => 78

/-- Why a command comes to nothing. -/
inductive Fault where
  | failure (cause : Failure)
  | pair (cause : Evidence.PairFault)
  | noCommand

namespace Fault

/-- The words for a fault. -/
def message : Fault → String
  | failure cause => cause.message
  | pair cause => "invalid arguments: " ++ cause.message
  | noCommand => "no command given, see --help"

/-- How a run with a fault ends. -/
def exitCode : Fault → ExitCode
  | failure (.tree (.malformed _)) => .badData
  | failure (.tree (.read _)) => .unreadable
  | failure (.evidence _ _) => .badData
  | failure .noDataFile => .usage
  | failure (.settings _) => .badSettings
  | failure (.unopened _ _ _) => .noInput
  | pair _ => .usage
  | noCommand => .usage

end Fault

/-- What a command answers. -/
structure Answer where
  output : String := ""
  warnings : String := ""
  result : Except Fault ExitCode

namespace Answer

/-- An answer that is only a fault. -/
def fault (fault : Fault) : Answer where
  result := .error fault

/-- The code that a run with this answer ends with. -/
def exitCode (answer : Answer) : ExitCode :=
  match answer.result with
  | .ok code => code
  | .error fault => fault.exitCode

end Answer

/-! ## Texts -/

/-- A line. -/
def line (s : String) : String := s ++ "\n"

/-- The words of a reason in JSON. -/
def reasonName : Reason → String
  | .noTree => "no_tree"
  | .missingEvidence => "missing_evidence"
  | .noMatchingBranch => "no_matching_branch"
  | .noProfileOnPath => "no_profile_on_path"

/-- A resolution in JSON. -/
def resolutionValue (r : Resolution) : Json.Value :=
  .object
    [("profile_id", (r.profile.map fun id => Json.Value.ofNat id.toNat).getD .null),
      ("path", .array (r.path.map Json.Value.ofNat)),
      ("reason", (r.reason.map fun reason => Json.Value.string (reasonName reason)).getD .null)]

/-- A resolution behind its mark. -/
def markedLine (r : Resolution) : String :=
  line ((if r.isMatch then "✓ " else "✗ ") ++ r.message)

/-- The nodes on a path, one on each line, below a header. -/
def traceText (tree : Tree) (path : List Nat) : String :=
  line "Path" ++
    String.join ((path.filterMap tree.node?).map fun node => line ("  " ++ node.label))

/-- The resolutions of records, one on each line behind its number, the first of which is
`index`. -/
def numberedLines : (index : Nat) → List Resolution → String
  | _, [] => ""
  | index, r :: rest =>
    line (toString index ++ "\t" ++ r.message) ++ numberedLines (index + 1) rest

/-- A publication date, and the day that it names. -/
def publishedText (tree : Tree) : String :=
  match Calendar.publishedOn? tree.publishDate with
  | some date => tree.publishDate ++ " (" ++ date.text ++ ")"
  | none => tree.publishDate

/-- What is known of a tree as a whole. -/
def infoText (tree : Tree) : String :=
  line "Profile tree" ++
    line ("Version: " ++ tree.version) ++
    line ("Published: " ++ publishedText tree) ++
    line ("Nodes: " ++ toString tree.size) ++
    line ("Reachable: " ++ toString tree.reachable) ++
    line ("Depth: " ++ toString tree.depth) ++
    line ("Leaves: " ++ toString tree.leaves.length) ++
    line ("Profiles: " ++ toString tree.profiles.length)

/-- The warning that there is no evidence. -/
def noEvidenceWarning : String :=
  line "Warning: no evidence given, only the root can apply"

/-! ## Commands -/

variable (fs : FileSystem) (env : Environment) (settings : Settings)

/-- The tree of a run: in the file that the arguments name, or else in that of the settings. -/
def openTree (dataFile : Option String) : Except Failure Tree :=
  match dataFile.or settings.dataFile with
  | some path => loadTree fs path
  | none => .error .noDataFile

/-- The evidence of a request: the record, and the pairs over it. -/
def gather (request : ResolveRequest) : Except Fault (Assoc Evidence.Value) := do
  let known ←
    match request.recordFile with
    | some path => ((loadRecord fs path).mapError Fault.failure).map Evidence.Record.values
    | none => .ok []
  (Evidence.readPairsOnto known request.pairs).mapError .pair

/-- How a run with a resolution ends. -/
def resolutionCode (r : Resolution) : ExitCode := if r.isMatch then .success else .noMatch

/-- The text of a resolution as a request wants it. -/
def resolutionText (request : ResolveRequest) (tree : Tree) (r : Resolution) : String :=
  if request.json then line (resolutionValue r).spreadText
  else markedLine r ++ if request.trace then traceText tree r.path else ""

/-- The answer to a request to resolve evidence. -/
def resolveAnswer (request : ResolveRequest) : Answer :=
  match gather fs request with
  | .error fault => .fault fault
  | .ok evidence =>
    let warnings := if evidence.isEmpty then noEvidenceWarning else ""
    match openTree fs settings request.dataFile with
    | .error cause => { warnings, result := .error (.failure cause) }
    | .ok tree =>
      let r := tree.resolve (request.matching.over settings.matching) (.ofAssoc evidence)
      { output := resolutionText request tree r, warnings, result := .ok (resolutionCode r) }

/-- The text of the resolutions of records as a request wants it. -/
def batchText (request : BatchRequest) (resolutions : List Resolution) : String :=
  if request.json then line (Json.Value.array (resolutions.map resolutionValue)).spreadText
  else numberedLines 0 resolutions

/-- The answer to a request to resolve each record of a file. -/
def batchAnswer (request : BatchRequest) : Answer :=
  match loadRecords fs request.recordsFile with
  | .error cause => .fault (.failure cause)
  | .ok records =>
    match openTree fs settings request.dataFile with
    | .error cause => .fault (.failure cause)
    | .ok tree =>
      let resolutions := tree.resolveAll (request.matching.over settings.matching)
        (records.map Evidence.Source.ofRecord)
      { output := batchText request resolutions, result := .ok .success }

/-- A text about the tree of a run. -/
def treeAnswer (dataFile : Option String) (text : Tree → String) : Answer :=
  match openTree fs settings dataFile with
  | .error cause => .fault (.failure cause)
  | .ok tree => { output := text tree, result := .ok .success }

/-- The verdict on a tree file. A file that holds no tree is an answer, one that cannot be read a
fault. -/
def validateAnswer (file : String) : Answer :=
  match loadTree fs file with
  | .ok tree =>
    { output := line ("✓ " ++ file ++ ": version " ++ tree.version ++ ", " ++ toString tree.size ++
        " nodes")
      result := .ok .success }
  | .error cause =>
    if cause.isMalformed then
      { output := line ("✗ " ++ file ++ ": " ++ cause.message), result := .ok .badData }
    else .fault (.failure cause)

/-- The answer to a request about the settings. -/
def settingsAnswer : SettingsRequest → Answer
  | .effective => { output := line settings.text, result := .ok .success }
  | .template => { output := line Settings.template, result := .ok .success }
  | .location =>
    match env.settingsPath? with
    | some path => { output := line path, result := .ok .success }
    | none =>
      { warnings := line "Warning: no config directory available on this platform"
        result := .ok .success }

/-- The answer to a command. The script that a request for completions prints is left out: it is
made from the grammar of the arguments alone, and only its success is kept. -/
def commandAnswer : Command → Answer
  | .resolve request => resolveAnswer fs settings request
  | .batch request => batchAnswer fs settings request
  | .info dataFile => treeAnswer fs settings dataFile infoText
  | .outline dataFile => treeAnswer fs settings dataFile fun tree => line tree.outlineText
  | .validate file => validateAnswer fs file
  | .settings request => settingsAnswer env settings request
  | .completion _ => { result := .ok .success }

/-- The answer to an invocation. -/
def Invocation.answer (invocation : Invocation) : Answer :=
  match Settings.load fs env invocation.settingsFile with
  | .error cause => .fault (.failure (.settings cause))
  | .ok settings =>
    match invocation.command with
    | some command => commandAnswer fs env settings command
    | none => .fault .noCommand

end EvidenceTree.CommandLine
