import EvidenceTree.Evidence.Basic
import EvidenceTree.Text.Lowercase

/-!
# Nodes

A node of a table asks one question of the evidence: is it this text, or a number in this range? The
root asks nothing.
-/

namespace EvidenceTree

/-- The number of a profile. -/
abbrev ProfileId := UInt32

/-- Whether letters that differ in case alone are told apart. -/
inductive CaseMode where
  | sensitive
  | insensitive
  deriving DecidableEq

/-- What a node asks of the evidence. -/
inductive Criterion where
  | root
  | literal (text : String)
  | range (low high : Finite64)
  deriving DecidableEq, Inhabited

namespace Criterion

/-- A text meets the criterion. No text lies in a range. -/
def matchesText (mode : CaseMode) (s : String) : Criterion → Bool
  | root => true
  | literal text =>
    match mode with
    | .sensitive => text == s
    | .insensitive => Text.lower text == Text.lower s
  | range _ _ => false

/-- A number meets the criterion. No number is a literal. -/
def matchesNumber (x : Binary64) : Criterion → Bool
  | root => true
  | literal _ => false
  | range low high => Binary64.between low high x

/-- A value meets the criterion: a literal looks at its text, a range at its number. -/
def accepts (mode : CaseMode) (value : Evidence.Value) (criterion : Criterion) : Bool :=
  match criterion with
  | root => true
  | literal _ => criterion.matchesText mode value.toText
  | range _ _ =>
    match value.toNumber? with
    | some x => criterion.matchesNumber x
    | none => false

/-- The criteria are equal, bounds as numbers: the two zeros are the same bound. -/
def same : Criterion → Criterion → Bool
  | root, root => true
  | literal text, literal text' => text == text'
  | range low high, range low' high' => low.same low' && high.same high'
  | _, _ => false

end Criterion

/-- A node: its place in the table, its question, the key it asks under, the profile it gives and
its children in order. -/
structure Node where
  index : Nat
  criterion : Criterion
  key : Option String
  profile : Option ProfileId
  children : List Nat
  deriving DecidableEq, Inhabited

namespace Node

/-- A node without children. -/
def isLeaf (node : Node) : Bool := node.children.isEmpty

/-- The nodes are equal, bounds as numbers. -/
def same (a b : Node) : Bool :=
  a.index == b.index && a.criterion.same b.criterion && a.key == b.key &&
    a.profile == b.profile && a.children == b.children

end Node

end EvidenceTree
