import EvidenceTree.Settings.Document
import EvidenceTree.Settings.Expansion
import EvidenceTree.Settings.Variables
import EvidenceTree.Text.Symbol

/-!
# Loading settings

The layers of settings from the weakest to the strongest: the defaults, the file for all runs if
there is one, a file that is named for this run, and the variables. The path of the data file is
expanded at the end.
-/

namespace EvidenceTree.Settings

/-- The layer that the file at a path specifies. -/
def Layer.ofFile (fs : FileSystem) (path : String) : Except SettingsFault Layer := do
  let bytes ← (fs.read path).mapError (.unread path)
  match Text.Symbol.text? bytes with
  | none => .error (.notText path)
  | some text =>
    match Layer.ofText? text with
    | none => .error (.notToml path)
    | some layer => .ok layer

/-- The layer of the file for all runs; nothing, if there is no such file. -/
def Layer.global (fs : FileSystem) (env : Environment) : Except SettingsFault Layer :=
  match env.settingsPath? with
  | some path => if fs.present path then Layer.ofFile fs path else .ok {}
  | none => .ok {}

/-- The layer of the file that is named for a run; nothing, if none is named. -/
def Layer.named (fs : FileSystem) : (path : Option String) → Except SettingsFault Layer
  | some path => Layer.ofFile fs path
  | none => .ok {}

/-- The settings with the path of the data file expanded. -/
def expanded (env : Environment) (settings : Settings) : Settings :=
  { settings with dataFile := settings.dataFile.map (Expansion.expand env) }

/-- The settings of a run, for which a file may be named. -/
def load (fs : FileSystem) (env : Environment) (path : Option String) :
    Except SettingsFault Settings := do
  let general ← Layer.global fs env
  let named ← Layer.named fs path
  let surrounding ← Layer.ofVariables env.values
  return ((({} : Settings).overlaid general).overlaid named |>.overlaid surrounding).expanded env

end EvidenceTree.Settings
