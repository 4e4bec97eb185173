import EvidenceTree.Tree.Basic
import EvidenceTree.Tree.Label

/-!
# Outlines

A tree as an outline: each node that the root reaches has one entry of its own, at the place where a
walk first comes to it; where it is met again a short reference stands. Below a limit of levels the
children of a node are only counted.
-/

namespace EvidenceTree

/-- An entry of an outline: a node with the entries below it, a reference to a node that is shown
above, or a number of children that are not shown. -/
inductive Entry (n : Nat) where
  | own (node : Fin n) (below : List (Entry n))
  | shared (node : Fin n)
  | omitted (children : Nat)

namespace Entry

variable {n : Nat}

/-- The entries of a list of children, given how a child is entered that is not shown yet, and the
nodes that are shown afterwards. -/
def ofChildren (enter : Fin n → Vector Bool n → Entry n × Vector Bool n) :
    List (Fin n) → Vector Bool n → List (Entry n) × Vector Bool n
  | [], shown => ([], shown)
  | child :: others, shown =>
    let (first, shown) :=
      if shown[child] then (shared child, shown) else enter child (shown.set child true)
    let (rest, shown) := ofChildren enter others shown
    (first :: rest, shown)

/-- The entry of a node with a number of levels below it, and the nodes that are shown
afterwards. -/
def ofNode (g : Graph n) : Nat → Fin n → Vector Bool n → Entry n × Vector Bool n
  | 0, i, shown => (own i (if (g i).isEmpty then [] else [omitted (g i).length]), shown)
  | levels + 1, i, shown =>
    let (below, shown) := ofChildren (ofNode g levels) (g i) shown
    (own i below, shown)

/-! ## As text -/

/-- The text of an entry itself, given the labels of the nodes. -/
def head (label : Fin n → String) : Entry n → String
  | own i _ => label i
  | shared i => "#" ++ toString i.1 ++ " (shared, shown above)"
  | omitted children => "... " ++ toString children ++ " children not shown"

mutual

/-- An entry and those below it, one after the other, each with the indentation of its level. The
indentation of the entry's own line and that of the lines below it differ. -/
def lines (label : Fin n → String) (lead indent : String) : Entry n → List String
  | own i below => (lead ++ label i) :: linesBelow label indent below
  | shared i => [lead ++ head label (shared i)]
  | omitted children => [lead ++ head label (omitted children)]

/-- Entries of one level; the last one has no line running on below it. -/
def linesBelow (label : Fin n → String) (indent : String) : List (Entry n) → List String
  | [] => []
  | [entry] => lines label (indent ++ "└── ") (indent ++ "    ") entry
  | entry :: next :: rest =>
    lines label (indent ++ "├── ") (indent ++ "│   ") entry ++
      linesBelow label indent (next :: rest)

end

end Entry

namespace Tree

/-- The number of levels that an outline shows. -/
def outlineLevels : Nat := 64

/-- The outline of a tree. -/
def outline (t : Tree) : Entry t.size :=
  (Entry.ofNode t.graph (outlineLevels - 1) t.root
    ((Vector.replicate t.size false).set t.root true)).1

/-- The label of a node in the outline: the root also shows the version and the date. -/
def outlineLabel (t : Tree) (i : Fin t.size) : String :=
  if i = t.root then
    (t.node i).label ++ " (v" ++ t.version ++ ", " ++ t.publishDate ++ ")"
  else (t.node i).label

/-- The outline as text, each entry ended by a new line. -/
def outlineText (t : Tree) : String :=
  String.join ((t.outline.lines t.outlineLabel "" "").map (· ++ "\n"))

end Tree

end EvidenceTree
