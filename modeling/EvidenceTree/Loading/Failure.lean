import EvidenceTree.Document.Build
import EvidenceTree.Files.Basic

/-!
# Why work on files fails

The causes of a failure, of loading a file or of settings, and their wording.
-/

namespace EvidenceTree

/-- What a JSON value is, in words. -/
def Json.Value.kindName : Json.Value → String
  | .null => "null"
  | .bool _ => "a boolean"
  | .number _ => "a number"
  | .string _ => "a string"
  | .array _ => "an array"
  | .object _ => "an object"

/-- Why a file holds no evidence. -/
inductive EvidenceFault where
  | unread (fault : FileFault)
  | unreadable (fault : Json.Fault)
  | noObject (found : String)
  | noArray
  | noRecord (index : Nat) (found : String)
  deriving DecidableEq

/-- The words for a file without evidence. -/
def EvidenceFault.message : EvidenceFault → String
  | unread fault => fault.message
  | unreadable fault => fault.message
  | noObject found => "expected an object, found " ++ found
  | noArray => "expected an array of objects"
  | noRecord index found => "record " ++ toString index ++ ": expected an object, found " ++ found

/-- Why settings cannot be loaded. -/
inductive SettingsFault where
  | unread (path : String) (fault : FileFault)
  | notText (path : String)
  | notToml (path : String)
  | noBoolean (text : String)
  | booleanTable
  | booleanList
  | noKeyPolicy (text : String)
  deriving DecidableEq

/-- The key of the case mode in the settings. -/
def caseKey : String := Json.backquoted "matching.case_sensitive"

/-- The words for settings that cannot be loaded. -/
def SettingsFault.message : SettingsFault → String
  | unread path fault => "read " ++ path ++ ": " ++ fault.message
  | notText path => "read " ++ path ++ ": stream did not contain valid UTF-8"
  | notToml path => "parse " ++ path ++ ": TOML parse error"
  | noBoolean text =>
    "invalid type: string " ++ Text.quoted text ++ ", expected a boolean for key " ++ caseKey ++
      " in the environment"
  | booleanTable => "invalid type: map, expected a boolean for key " ++ caseKey
  | booleanList => "invalid type: sequence, expected a boolean for key " ++ caseKey
  | noKeyPolicy text =>
    "invalid key_policy '" ++ text ++ "', expected 'inherit' or 'explicit'"

/-- What was to be done with a file that could not be opened. -/
inductive FileTask where
  | openTree
  | openEvidence
  deriving DecidableEq

/-- The words for what was to be done. -/
def FileTask.message : FileTask → String
  | openTree => "open tree data"
  | openEvidence => "open evidence"

/-- Why work on files failed. -/
inductive Failure where
  | tree (cause : LoadFault)
  | noDataFile
  | evidence (path : String) (cause : EvidenceFault)
  | settings (cause : SettingsFault)
  | unopened (task : FileTask) (path : String) (cause : FileFault)

namespace Failure

/-- The words for a failure. -/
def message : Failure → String
  | tree cause => cause.message
  | noDataFile => "no tree data file configured"
  | evidence path cause => "invalid evidence in " ++ path ++ ": " ++ cause.message
  | settings cause => "config error: " ++ cause.message
  | unopened task path _ => "operation failed: " ++ task.message ++ ": " ++ path

/-- The failure comes from what a tree file holds. -/
def isMalformed : Failure → Bool
  | tree (.malformed _) => true
  | _ => false

end Failure

end EvidenceTree
