import EvidenceTree.Settings.Basic

/-!
# Commands

What a run is asked to do: one of the commands, with the settings file that is named for the run.
-/

namespace EvidenceTree.CommandLine

/-- What the arguments say about matching, over the settings. -/
structure MatchingChoice where
  ignoreCase : Bool := false
  keyPolicy : Option KeyPolicy := none
  deriving DecidableEq

/-- How evidence is matched: as the settings say, unless the arguments say otherwise. -/
def MatchingChoice.over (choice : MatchingChoice) (options : Options) : Options where
  caseSensitive := if choice.ignoreCase then false else options.caseSensitive
  keyPolicy := choice.keyPolicy.getD options.keyPolicy

/-- A request to resolve evidence, given as pairs and as a file with a record. -/
structure ResolveRequest where
  dataFile : Option String := none
  pairs : List String := []
  recordFile : Option String := none
  trace : Bool := false
  json : Bool := false
  matching : MatchingChoice := {}
  deriving DecidableEq

/-- A request to resolve each record of a file. -/
structure BatchRequest where
  dataFile : Option String := none
  recordsFile : String
  json : Bool := false
  matching : MatchingChoice := {}
  deriving DecidableEq

/-- What is asked about the settings: their text, a template, or where the file for all runs is. -/
inductive SettingsRequest where
  | effective
  | template
  | location
  deriving DecidableEq

/-- A shell that command lines can be completed in. -/
inductive Shell where
  | bash
  | elvish
  | fish
  | powershell
  | zsh
  deriving DecidableEq

/-- The shell of a name. -/
def Shell.ofName? : String → Option Shell
  | "bash" => some bash
  | "elvish" => some elvish
  | "fish" => some fish
  | "powershell" => some powershell
  | "zsh" => some zsh
  | _ => none

/-- A command. -/
inductive Command where
  | resolve (request : ResolveRequest)
  | batch (request : BatchRequest)
  | info (dataFile : Option String)
  | outline (dataFile : Option String)
  | validate (file : String)
  | settings (request : SettingsRequest)
  | completion (shell : Shell)
  deriving DecidableEq

/-- What a run is asked to do, if anything, and with which settings file. -/
structure Invocation where
  settingsFile : Option String := none
  command : Option Command := none
  deriving DecidableEq

end EvidenceTree.CommandLine
