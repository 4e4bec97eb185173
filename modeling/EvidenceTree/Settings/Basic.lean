import EvidenceTree.Resolution.Basic

/-!
# Settings

Settings are put together from layers. A layer specifies some of the settings, and what a later
layer specifies counts.
-/

namespace EvidenceTree

/-- The settings: the tree file that is used when none is named, and how evidence is matched. -/
structure Settings where
  dataFile : Option String := none
  matching : Options := {}
  deriving DecidableEq, Inhabited

/-- What one source of settings specifies. -/
structure Settings.Layer where
  dataFile : Option String := none
  caseSensitive : Option Bool := none
  keyPolicy : Option KeyPolicy := none
  deriving DecidableEq, Inhabited

namespace Settings

/-- The settings with a layer over them. -/
def overlaid (settings : Settings) (layer : Layer) : Settings where
  dataFile := layer.dataFile.or settings.dataFile
  matching :=
    { caseSensitive := layer.caseSensitive.getD settings.matching.caseSensitive
      keyPolicy := layer.keyPolicy.getD settings.matching.keyPolicy }

end Settings

/-- The word for a key policy. -/
def KeyPolicy.name : KeyPolicy → String
  | inherit => "inherit"
  | explicit => "explicit"

/-- The key policy that a word stands for. -/
def KeyPolicy.ofName? : String → Option KeyPolicy
  | "inherit" => some .inherit
  | "explicit" => some .explicit
  | _ => none

@[simp]
theorem KeyPolicy.ofName?_name (policy : KeyPolicy) : ofName? policy.name = some policy := by
  cases policy <;> rfl

end EvidenceTree
