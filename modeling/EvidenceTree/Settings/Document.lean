import EvidenceTree.Assoc
import EvidenceTree.Settings.Basic
import EvidenceTree.Toml.Printer
import EvidenceTree.Toml.Reader

/-!
# Settings as TOML

A document specifies the data file under its own name and the rest in the table `matching`. Names
that mean nothing are passed over, but a value of the wrong kind under a known name is refused.
-/

namespace EvidenceTree

/-! ## Reading -/

/-- The text that a value is. -/
def Toml.Value.text? : Toml.Value → Option String
  | .string s => some s
  | _ => none

/-- The truth value that a value is. -/
def Toml.Value.bool? : Toml.Value → Option Bool
  | .boolean b => some b
  | _ => none

/-- A value without any content: what a name alone can stand over. -/
def Toml.Value.isVoid : Toml.Value → Bool
  | .array items => items.isEmpty
  | .table members => members.isEmpty
  | _ => false

/-- The key policy that a value names, as a text or as the only name of a table over nothing. -/
def KeyPolicy.ofValue? : Toml.Value → Option KeyPolicy
  | .string s => ofName? s
  | .table [(name, value)] => if value.isVoid then ofName? name else none
  | _ => none

namespace Settings

/-- What is read from a value that may be missing: nothing, or what it has to be. -/
def optional {α : Type} (read : Toml.Value → Option α) : Option Toml.Value → Option (Option α)
  | none => some none
  | some value => (read value).map some

/-- The layer of the values in the table of matching, each of which may be missing. -/
def Layer.ofMatching? (caseSensitive keyPolicy : Option Toml.Value) : Option Layer := do
  let caseSensitive ← optional Toml.Value.bool? caseSensitive
  let keyPolicy ← optional KeyPolicy.ofValue? keyPolicy
  some { caseSensitive, keyPolicy }

/-- The layer that the value of `matching` specifies: a table by names, or an array by positions.
A date specifies nothing. -/
def Layer.ofMatchingValue? : Toml.Value → Option Layer
  | .table members =>
    ofMatching? (Assoc.find? "case_sensitive" members) (Assoc.find? "key_policy" members)
  | .array items => ofMatching? items[0]? items[1]?
  | .dateTime _ => some {}
  | _ => none

/-- The layer that a document specifies. -/
def Layer.ofValue? : Toml.Value → Option Layer
  | .table members => do
    let dataFile ← optional Toml.Value.text? (Assoc.find? "data_file" members)
    let matching ← optional ofMatchingValue? (Assoc.find? "matching" members)
    some { matching.getD {} with dataFile }
  | _ => none

/-- The layer that the text of a document specifies. -/
def Layer.ofText? (text : String) : Option Layer := (Toml.Value.ofText? text).bind ofValue?

/-- The settings of a document: what it specifies, over the defaults. -/
def ofText? (text : String) : Option Settings :=
  (Layer.ofText? text).map (overlaid {})

/-! ## Writing -/

/-- The settings as a document. -/
def text (settings : Settings) : String :=
  let dataFile :=
    match settings.dataFile with
    | some path => "data_file = " ++ Toml.stringText path ++ "\n\n"
    | none => ""
  dataFile ++ "[matching]\ncase_sensitive = " ++
    (if settings.matching.caseSensitive then "true" else "false") ++ "\nkey_policy = " ++
    Toml.stringText settings.matching.keyPolicy.name ++ "\n"

end Settings

end EvidenceTree
