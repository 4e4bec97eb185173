import EvidenceTree.Tree.Node

/-!
# Resolutions

The answer to a question of evidence: the profile found, the path to it, and, when no profile is
found, the reason.
-/

namespace EvidenceTree

/-- Which key a node asks under that names none: that of the nearest node above it with a key, or
no key at all. -/
inductive KeyPolicy where
  | inherit
  | explicit
  deriving DecidableEq, Inhabited

/-- How evidence is matched. -/
structure Options where
  caseSensitive : Bool := true
  keyPolicy : KeyPolicy := .inherit
  deriving DecidableEq, Inhabited

/-- How letters of different case are compared. -/
def Options.caseMode (options : Options) : CaseMode :=
  if options.caseSensitive then .sensitive else .insensitive

/-- Why there is no profile. -/
inductive Reason where
  | noTree
  | missingEvidence
  | noMatchingBranch
  | noProfileOnPath
  deriving DecidableEq

/-- The words for a reason. -/
def Reason.message : Reason → String
  | noTree => "no tree loaded"
  | missingEvidence => "missing evidence"
  | noMatchingBranch => "no matching branch"
  | noProfileOnPath => "no profile on matched path"

/-- The profile found, the indices of the nodes on the path, and the reason when there is no
profile. -/
@[ext]
structure Resolution where
  profile : Option ProfileId
  path : List Nat
  reason : Option Reason
  deriving DecidableEq

namespace Resolution

/-- The answer where there is no tree. -/
def noTree : Resolution := ⟨none, [], some .noTree⟩

/-- A profile was found. -/
def isMatch (r : Resolution) : Bool := r.profile.isSome

/-- The outcome in words. -/
def outcome (r : Resolution) : String :=
  match r.profile, r.reason with
  | some id, _ => toString id.toNat
  | none, some reason => "no match (" ++ reason.message ++ ")"
  | none, none => "no match"

/-- The answer on one line. -/
def message (r : Resolution) : String :=
  if r.path.isEmpty then r.outcome
  else r.outcome ++ " [path: " ++ " -> ".intercalate (r.path.map toString) ++ "]"

end Resolution

end EvidenceTree
