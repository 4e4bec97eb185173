import EvidenceTree.Resolution.Basic
import EvidenceTree.Tree.Basic

/-!
# Resolving evidence

From the root on, the first child in order that the evidence meets is followed. A child whose
evidence is not there is passed over, which is no reason against its siblings. The profile of the
deepest node on the path that has one is the answer.
-/

namespace EvidenceTree

variable {t : Tree}

/-- What the evidence says to a node. -/
inductive Verdict where
  | matched
  | rejected
  | skipped
  deriving DecidableEq

/-- The key that a node asks under, given the key of the nodes above it. -/
def Node.effectiveKey (policy : KeyPolicy) (inherited : Option String) (node : Node) :
    Option String :=
  node.key.or (match policy with
    | .inherit => inherited
    | .explicit => none)

/-- What the evidence says to a node: nothing when the node has no key or the key no evidence. -/
def Node.verdict (options : Options) (source : Evidence.Source) (inherited : Option String)
    (node : Node) : Verdict :=
  match (node.effectiveKey options.keyPolicy inherited).bind source with
  | none => .skipped
  | some value =>
    if node.criterion.accepts options.caseMode value then .matched else .rejected

/-- Why no child of a node is followed: it has none, all were passed over, or one was rejected. -/
inductive Stop where
  | leaf
  | allSkipped
  | someRejected
  deriving DecidableEq

/-- Why no child is followed, from what the evidence says to each. -/
def Stop.ofVerdicts (verdicts : List Verdict) : Stop :=
  if verdicts.contains .rejected then .someRejected
  else if verdicts.isEmpty then .leaf
  else .allSkipped

/-- The reason that is given where no profile was found. -/
def Stop.reason : Stop → Reason
  | leaf => .noProfileOnPath
  | allSkipped => .missingEvidence
  | someRejected => .noMatchingBranch

/-- A way down a tree: the nodes from where it starts, the profile found on it or above it, and why
it ends. -/
structure Descent (n : Nat) where
  path : List (Fin n)
  profile : Option ProfileId
  stop : Stop

/-- The way down from a node above. -/
def Descent.under {n : Nat} (i : Fin n) (below : Descent n) : Descent n :=
  { below with path := i :: below.path }

/-- What the evidence says to a child, given the key of the nodes above it. -/
def Tree.verdict (t : Tree) (options : Options) (source : Evidence.Source) (key : Option String)
    (child : Fin t.size) : Verdict :=
  (t.node child).verdict options source key

/-- The first child of a node that the evidence meets. -/
def Tree.chosen? (t : Tree) (options : Options) (source : Evidence.Source) (key : Option String)
    (i : Fin t.size) : Option (Fin t.size) :=
  (t.graph i).find? fun child => t.verdict options source key child = .matched

theorem Tree.child_of_chosen? {options : Options} {source : Evidence.Source} {key : Option String}
    {i child : Fin t.size} (chosen : t.chosen? options source key i = some child) :
    t.graph.Child child i :=
  List.mem_of_find?_eq_some chosen

/-- Follows the evidence down from a node, given the key and the profile of the nodes down to it. -/
def descend (t : Tree) (options : Options) (source : Evidence.Source) (i : Fin t.size)
    (key : Option String) (profile : Option ProfileId) : Descent t.size :=
  match _ : t.chosen? options source key i with
  | some child =>
    (descend t options source child ((t.node child).key.or key)
      ((t.node child).profile.or profile)).under i
  | none => ⟨[i], profile, Stop.ofVerdicts ((t.graph i).map (t.verdict options source key))⟩
termination_by t.acyclic.wrap i
decreasing_by exact Tree.child_of_chosen? (by assumption)

/-- The way down from the root. -/
def Tree.descent (t : Tree) (options : Options) (source : Evidence.Source) : Descent t.size :=
  let root := t.node t.root
  descend t options source t.root root.key root.profile

/-- The answer that a way down from the root gives. -/
def Descent.resolution {n : Nat} (found : Descent n) : Resolution :=
  { profile := found.profile
    path := found.path.map Fin.val
    reason := if found.profile.isSome then none else some found.stop.reason }

/-- Resolves evidence to the profile of the deepest node that it leads to. -/
def Tree.resolve (t : Tree) (options : Options) (source : Evidence.Source) : Resolution :=
  (t.descent options source).resolution

/-- Resolves each of many sources. -/
def Tree.resolveAll (t : Tree) (options : Options) (sources : List Evidence.Source) :
    List Resolution :=
  sources.map (t.resolve options)

end EvidenceTree
