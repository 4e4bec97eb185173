import EvidenceTree.Text.Quoted
import EvidenceTree.Tree.Node

/-!
# Labels

A node on one line: its index, its question and the profile it gives. A literal is quoted, so that
every character of it can be told apart; a missing key shows as a question mark.
-/

namespace EvidenceTree

/-- The question of a node that asks under a key. -/
def Criterion.label (key : String) : Criterion → String
  | root => "root"
  | literal text => key ++ " == " ++ Text.quoted text
  | range low high =>
    key ++ " in [" ++ String.ofList low.plain ++ ", " ++ String.ofList high.plain ++ "]"

/-- A node on one line. -/
def Node.label (node : Node) : String :=
  let question := "#" ++ toString node.index ++ " " ++ node.criterion.label (node.key.getD "?")
  match node.profile with
  | some id => question ++ " => " ++ toString id.toNat
  | none => question

end EvidenceTree
