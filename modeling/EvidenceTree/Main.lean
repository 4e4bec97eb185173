import EvidenceTree.CommandLine.Reader
import EvidenceTree.CommandLine.Run

/-!
# The command line program

Reads the arguments, the variables and the files that a command names, and writes its answer.
-/

namespace EvidenceTree.CommandLine

/-! ## Files -/

/-- The files that a command names beside the settings. -/
def Command.files (settings : Settings) : Command → List String
  | .resolve request =>
    request.recordFile.toList ++ (request.dataFile.or settings.dataFile).toList
  | .batch request => request.recordsFile :: (request.dataFile.or settings.dataFile).toList
  | .info dataFile | .outline dataFile => (dataFile.or settings.dataFile).toList
  | .validate file => [file]
  | .settings _ | .completion _ => []

/-- The files that settings are loaded from. -/
def Invocation.settingsFiles (invocation : Invocation) (env : Environment) : List String :=
  env.settingsPath?.toList ++ invocation.settingsFile.toList

/-- What is seen of a path: what comes of opening it, and whether something is there. -/
structure Sight where
  opened : Except FileFault Opened
  present : Bool

/-- A file system in which only the paths of a list are known. -/
def knownFiles (sights : List (String × Sight)) : FileSystem where
  openFile path := ((sights.lookup path).map Sight.opened).getD (.error .notFound)
  present path := ((sights.lookup path).map Sight.present).getD false

/-- The fault that an error of the system stands for, by its number and its words. -/
def faultOf (error : IO.Error) : FileFault :=
  match error with
  | .noFileOrDirectory .. => .notFound
  | .inappropriateType _ code words | .invalidArgument _ code words
  | .permissionDenied _ code words | .resourceExhausted _ code words
  | .hardwareFault code words | .otherError code words => ofNumber code.toNat words
  | error => .other (toString error)
where
  ofNumber : Nat → String → FileFault
    | 20, _ => .notDirectory
    | 21, _ => .isDirectory
    | 22, _ => .nulInPath
    | 36, _ => .nameTooLong
    | number, words => .other (words ++ " (os error " ++ toString number ++ ")")

/-- What comes of reading an opened file to its end. -/
def lookInto (handle : IO.FS.Handle) : IO Opened := do
  try
    return .content (← handle.readBinToEnd)
  catch error =>
    return .unreadable (faultOf error)

/-- What comes of opening a file. -/
def tryOpening (path : String) : IO (Except FileFault Opened) := do
  try
    return .ok (← lookInto (← IO.FS.Handle.mk path .read))
  catch error =>
    return .error (faultOf error)

/-- Whether the names of a path lead to something, which may well be closed to the reader. -/
def leadsSomewhere (path : String) : IO Bool := do
  try
    discard (IO.FS.realPath path)
    return true
  catch _ =>
    return false

/-- What is seen of each path of a list. -/
def lookAll (paths : List String) : IO (List (String × Sight)) :=
  paths.mapM fun path => return (path, ⟨← tryOpening path, ← leadsSomewhere path⟩)

/-- The text in a file; nothing, if there is none. -/
def textAt (path : String) : IO String := do
  match ← tryOpening path with
  | .ok (.content bytes) => return (String.fromUTF8? bytes).getD ""
  | _ => return ""

/-! ## Surroundings -/

/-- The variables of a run, from their entries with a zero byte behind each. -/
def variablesOf (entries : String) : Assoc String :=
  Assoc.ofList <| (entries.splitOn "\x00").filterMap fun entry =>
    match entry.splitOn "=" with
    | name :: value :: rest => some (name, "=".intercalate (value :: rest))
    | _ => none

/-- The number of the account of a run, from the state of its process. -/
def accountOf? (status : String) : Option String :=
  (status.splitOn "\n").findSome? fun entry =>
    match entry.splitOn "\t" with
    | "Uid:" :: account :: _ => some account
    | _ => none

/-- The home directory of an account, from the list of all accounts. An empty one is none. -/
def homeOf? (accounts account : String) : Option String :=
  let home := (accounts.splitOn "\n").findSome? fun entry =>
    match entry.splitOn ":" with
    | [_, _, number, _, _, home, _] => if number = account then some home else none
    | _ => none
  home.filter fun directory => !directory.isEmpty

/-- The surroundings of this run. -/
def surroundings : IO Environment := do
  let account := accountOf? (← textAt "/proc/self/status")
  return {
    values := variablesOf (← textAt "/proc/self/environ")
    accountHome := account.bind (homeOf? (← textAt "/etc/passwd")) }

/-! ## The program -/

/-- The words for arguments that spell no invocation. -/
def Rejection.message : Rejection → String
  | helpAsked =>
    "usage: proftree [-d] [-c FILE] resolve|batch|info|show|validate|config|completion ..."
  | versionAsked => "proftree 0.3.0"
  | nothingGiven | missingCommand => "error: a command is missing"
  | unknownCommand => "error: unknown command"
  | missingArgument => "error: an argument is missing"
  | unknownArgument => "error: unexpected argument"
  | repeatedArgument => "error: an argument is given twice"
  | invalidValue => "error: a value is missing or not accepted"
  | unwantedValue => "error: an option takes no value"

/-- Arguments that spell a question rather than a mistake. -/
def Rejection.isQuestion : Rejection → Bool
  | helpAsked | versionAsked => true
  | _ => false

/-- Runs an invocation. -/
def Invocation.perform (invocation : Invocation) : IO UInt32 := do
  let env ← surroundings
  let settingsFiles ← lookAll (invocation.settingsFiles env)
  let settings := Settings.load (knownFiles settingsFiles) env invocation.settingsFile
  let named := match settings, invocation.command with
    | .ok settings, some command => command.files settings
    | _, _ => []
  let files ← lookAll named
  let answer := invocation.answer (knownFiles (settingsFiles ++ files)) env
  IO.print answer.output
  IO.eprint answer.warnings
  if let .error fault := answer.result then IO.eprintln ("error: " ++ fault.message)
  return UInt32.ofNat answer.exitCode.number

end EvidenceTree.CommandLine

open EvidenceTree.CommandLine in
/-- Runs the command that the arguments spell. -/
def main (arguments : List String) : IO UInt32 := do
  match Invocation.ofArguments arguments with
  | .ok invocation => invocation.perform
  | .error rejection =>
    if rejection.isQuestion then
      IO.println rejection.message
      return 0
    else
      IO.eprintln rejection.message
      return 2
