import EvidenceTree.Binary64.Text
import EvidenceTree.Text.Read

/-!
# TOML values

The values of a TOML document. The members of a table have no order of meaning, and no name stands
twice.
-/

namespace EvidenceTree.Toml

/-- A TOML value. A date or time is kept as it is written. -/
inductive Value where
  | string (s : String)
  | integer (n : Int)
  | float (x : Binary64)
  | boolean (b : Bool)
  | dateTime (written : String)
  | array (items : List Value)
  | table (members : List (String × Value))
  deriving Inhabited

end EvidenceTree.Toml
