import EvidenceTree.Binary64.Text
import EvidenceTree.Json.Basic

/-!
# Evidence

What is known of a device: a text or a number under a key. A number stands for its plain text where
a text is compared, and a text for the number it spells where a number is.
-/

namespace EvidenceTree.Evidence

/-- What is known under a key. -/
inductive Value where
  | text (s : String)
  | number (x : Binary64)
  deriving DecidableEq, Inhabited

namespace Value

/-- The value as a text. -/
def toText : Value → String
  | text s => s
  | number x => x.text

/-- The value as a number, if it is one or spells one. -/
def toNumber? : Value → Option Binary64
  | text s => Binary64.ofText? s
  | number x => some x

/-- What a JSON value says as evidence: a truth value speaks in words, lists and objects say
nothing. -/
def ofJson? : Json.Value → Option Value
  | .string s => some (text s)
  | .number n => some (number (.finite n.toFinite))
  | .bool true => some (text "true")
  | .bool false => some (text "false")
  | _ => none

end Value

/-- Where evidence is looked up by its key. -/
abbrev Source := String → Option Value

/-- A JSON object as a record of evidence. -/
abbrev Record := Assoc Json.Value

namespace Source

/-- The evidence that is kept under sorted keys. -/
def ofAssoc (values : Assoc Value) : Source := fun key => values.find? key

/-- The evidence that the members of a JSON object give. -/
def ofRecord (record : Record) : Source := fun key => (record.find? key).bind Value.ofJson?

end Source

/-- The evidence that a record gives, under its keys. -/
def Record.values (record : Record) : Assoc Value :=
  record.filterMap fun entry => (Value.ofJson? entry.2).map fun value => (entry.1, value)

end EvidenceTree.Evidence
