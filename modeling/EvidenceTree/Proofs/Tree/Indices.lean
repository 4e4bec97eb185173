import EvidenceTree.Proofs.Graph.Indices
import EvidenceTree.Proofs.Resolution.Simulation
import EvidenceTree.Proofs.Tree.Outlines

/-!
# Tables by plain indices

What is asked of a tree can be asked of its table alone, the nodes of which name each other by plain
numbers: walks, depths, drawings and resolutions in which each access looks a number up and fails
beyond the end. Of the table of a tree nothing is asked that is not there, so none of these fails,
and each answers what the tree answers.

* `Table.resolve?`, `Table.drawing?`: a resolution and a drawing by plain indices.
* `Tree.InRange`: nothing that is asked of the table of a tree fails.
* `Tree.inRange`: this is so for every tree.
-/

namespace EvidenceTree

open EvidenceTree.Graph (put? put?_toArray getElem?_toArray)

/-! ## Drawings -/

/-- A drawing: a text and what is drawn below it. -/
inductive Drawing where
  | node (text : String) (below : List Drawing)

namespace Drawing

mutual

/-- A text and those below it, one after the other, each with the indentation of its level. -/
def lines (lead indent : String) : Drawing → List String
  | node text below => (lead ++ text) :: linesBelow indent below

/-- Drawings of one level; the last one has no line running on below it. -/
def linesBelow (indent : String) : List Drawing → List String
  | [] => []
  | [drawing] => lines (indent ++ "└── ") (indent ++ "    ") drawing
  | drawing :: next :: rest =>
    lines (indent ++ "├── ") (indent ++ "│   ") drawing ++ linesBelow indent (next :: rest)

end

/-- A drawing as text, each line ended by a new line. -/
def text (drawing : Drawing) : String :=
  String.join ((drawing.lines "" "").map (· ++ "\n"))

end Drawing

namespace Entry

variable {n : Nat}

mutual

/-- An entry as a drawing. -/
def drawing (label : Fin n → String) : Entry n → Drawing
  | own i below => .node (label i) (drawings label below)
  | shared i => .node (head label (shared i)) []
  | omitted children => .node (head label (omitted children)) []

/-- Entries of one level as drawings. -/
def drawings (label : Fin n → String) : List (Entry n) → List Drawing
  | [] => []
  | entry :: rest => drawing label entry :: drawings label rest

end

variable {label : Fin n → String}

mutual

/-- An entry has the same lines as its drawing. -/
theorem lines_drawing : ∀ (entry : Entry n) (lead indent : String),
    (drawing label entry).lines lead indent = entry.lines label lead indent
  | own i below, lead, indent => by
    rw [drawing, Drawing.lines, lines, linesBelow_drawings below indent]
  | shared _, _, _ => rfl
  | omitted _, _, _ => rfl

theorem linesBelow_drawings : ∀ (entries : List (Entry n)) (indent : String),
    Drawing.linesBelow indent (drawings label entries) = linesBelow label indent entries
  | [], _ => rfl
  | [entry], indent => by
    rw [drawings, drawings, Drawing.linesBelow, linesBelow, lines_drawing entry]
  | entry :: next :: rest, indent => by
    have later := linesBelow_drawings (next :: rest) indent
    rw [drawings] at later
    rw [drawings, drawings, Drawing.linesBelow, linesBelow, lines_drawing entry, later]

end

end Entry

/-! ## Tables -/

namespace Table

/-- The drawings of a list of children, given how a child is drawn that is not shown yet. -/
def drawBelow? (draw? : Nat → Array Bool → Option (Drawing × Array Bool)) :
    List Nat → Array Bool → Option (List Drawing × Array Bool)
  | [], shown => some ([], shown)
  | child :: others, shown => do
    let first ←
      if ← shown[child]? then
        some (.node ("#" ++ toString child ++ " (shared, shown above)") [], shown)
      else draw? child (← put? shown child true)
    let rest ← drawBelow? draw? others first.2
    some (first.1 :: rest.1, rest.2)

/-- The drawing of a node with a number of levels below it. -/
def draw? (children? : Nat → Option (List Nat)) (label? : Nat → Option String) :
    Nat → Nat → Array Bool → Option (Drawing × Array Bool)
  | 0, i, shown => do
    let children ← children? i
    let below := if children.isEmpty then [] else
      [.node ("... " ++ toString children.length ++ " children not shown") []]
    some (.node (← label? i) below, shown)
  | levels + 1, i, shown => do
    let below ← drawBelow? (draw? children? label? levels) (← children? i) shown
    some (.node (← label? i) below.1, below.2)

section

variable (nodes : Array Node)

/-- The children that a node names. -/
def children? (i : Nat) : Option (List Nat) := nodes[i]?.map Node.children

/-- The label of a node in a drawing: the first one also shows the version and the date. -/
def label? (version publishDate : String) (i : Nat) : Option String :=
  nodes[i]?.map fun node =>
    if i = 0 then node.label ++ " (v" ++ version ++ ", " ++ publishDate ++ ")" else node.label

/-- The drawing of a table. -/
def drawing? (version publishDate : String) : Option Drawing := do
  let shown ← put? (Array.replicate nodes.size false) 0 true
  let drawn ← draw? (children? nodes) (label? nodes version publishDate) (Tree.outlineLevels - 1) 0
    shown
  some drawn.1

/-- The evidence meets the node at an index. -/
def isMet (options : Options) (source : Evidence.Source) (key : Option String) (i : Nat) : Bool :=
  nodes[i]?.any fun node => node.verdict options source key = .matched

/-- Follows the evidence down from a node. Its children are all looked up before one is followed. -/
def descend? (ends : WellFounded (Graph.Names (children? nodes))) (options : Options)
    (source : Evidence.Source) (i : Nat) (key : Option String) (profile : Option ProfileId) :
    Option (List Nat × Option ProfileId × Stop) :=
  match _ : nodes[i]? with
  | none => none
  | some current =>
    match current.children.mapM fun child => nodes[child]? with
    | none => none
    | some asked =>
      match _ : current.children.find? (isMet nodes options source key) with
      | none =>
        some ([current.index], profile,
          Stop.ofVerdicts (asked.map (·.verdict options source key)))
      | some child =>
        match nodes[child]? with
        | none => none
        | some next =>
          (descend? ends options source child (next.key.or key) (next.profile.or profile)).map
            fun below => (current.index :: below.1, below.2)
termination_by ends.wrap i
decreasing_by
  have here : nodes[i]? = some current := by assumption
  have found : current.children.find? (isMet nodes options source key) = some child := by
    assumption
  exact ⟨_, congrArg (Option.map Node.children) here, List.mem_of_find?_eq_some found⟩

/-- Resolves evidence by a table. -/
def resolve? (ends : WellFounded (Graph.Names (children? nodes))) (options : Options)
    (source : Evidence.Source) : Option Resolution := do
  let root ← nodes[0]?
  let found ← descend? nodes ends options source 0 root.key root.profile
  some
    { profile := found.2.1
      path := found.1
      reason := if found.2.1.isSome then none else some found.2.2.reason }

/-- One step down from a node whose children are all there. -/
theorem descend?_of_getElem? {ends : WellFounded (Graph.Names (children? nodes))}
    {options : Options} {source : Evidence.Source} {i : Nat} {key : Option String}
    {profile : Option ProfileId} {current : Node} {asked : List Node}
    (here : nodes[i]? = some current)
    (lookedUp : current.children.mapM (fun child => nodes[child]?) = some asked) :
    descend? nodes ends options source i key profile =
      match current.children.find? (isMet nodes options source key) with
      | none =>
        some ([current.index], profile,
          Stop.ofVerdicts (asked.map (·.verdict options source key)))
      | some child =>
        nodes[child]?.bind fun next =>
          (descend? nodes ends options source child (next.key.or key)
            (next.profile.or profile)).map fun below => (current.index :: below.1, below.2) := by
  rw [descend?]
  split
  · rename_i missing
    cases missing.symm.trans here
  · rename_i present
    cases present.symm.trans here
    rw [lookedUp]
    dsimp only
    split <;> rename_i found <;> rw [found]
    dsimp only
    split <;> rename_i next <;> rw [next] <;> rfl

end

/-- A table whose child indices are in bounds reads as a graph. So a search for a cycle does not
fail on it, whether it is the table of a tree or will be refused for a cycle. -/
theorem reads_children? {nodes : Array Node}
    (bounded : ∀ i (h : i < nodes.size), ∀ c ∈ nodes[i].children, c < nodes.size) :
    (childGraph nodes bounded).Reads (children? nodes) where
  inside i := by
    have map_val : ((childGraph nodes bounded) i).map Fin.val = nodes[i].children := by
      simp [childGraph, List.map_pmap]
    rw [map_val]
    exact congrArg (Option.map Node.children) (Array.getElem?_eq_getElem i.2)
  beyond _ isBeyond := congrArg (Option.map Node.children) (Array.getElem?_eq_none isBeyond)

/-! ## Drawings that are not out of range -/

section

variable {n : Nat} {g : Graph n} {children? : Nat → Option (List Nat)}
  {label? : Nat → Option String} {label : Fin n → String}

/-- An entry and what is shown after it, as a drawing. -/
def plainEntry (label : Fin n → String) (drawn : Entry n × Vector Bool n) :
    Drawing × Array Bool :=
  (drawn.1.drawing label, drawn.2.toArray)

theorem drawBelow?_eq {enter : Fin n → Vector Bool n → Entry n × Vector Bool n}
    {draw? : Nat → Array Bool → Option (Drawing × Array Bool)}
    (each : ∀ (c : Fin n) (shown : Vector Bool n),
      draw? c shown.toArray = some (plainEntry label (enter c shown)))
    (children : List (Fin n)) (shown : Vector Bool n) :
    drawBelow? draw? (children.map Fin.val) shown.toArray =
      some (Entry.drawings label (Entry.ofChildren enter children shown).1,
        (Entry.ofChildren enter children shown).2.toArray) := by
  induction children generalizing shown with
  | nil => rfl
  | cons child others ih =>
    rw [List.map_cons, drawBelow?, getElem?_toArray]
    by_cases known : Entry.IsShown shown child
    · have isTrue : shown.get child = true := known
      rw [Entry.ofChildren_of_isShown known, isTrue]
      simp only [Option.bind_eq_bind, Option.bind_some, if_true, ih]
      rfl
    · have isFalse : shown.get child = false := Bool.eq_false_iff.2 known
      rw [Entry.ofChildren_of_not_isShown known, isFalse, put?_toArray]
      simp only [Option.bind_eq_bind, Option.bind_some, Bool.false_eq_true, if_false, each,
        plainEntry, ih]
      rfl

theorem draw?_eq (reads : g.Reads children?) (labels : ∀ i : Fin n, label? i = some (label i))
    (levels : Nat) (i : Fin n) (shown : Vector Bool n) :
    draw? children? label? levels i shown.toArray =
      some (plainEntry label (Entry.ofNode g levels i shown)) := by
  induction levels generalizing i shown with
  | zero =>
    rw [draw?, reads.inside i, labels i, Entry.ofNode]
    simp only [Option.bind_eq_bind, Option.bind_some, List.isEmpty_map, List.length_map]
    cases (g i).isEmpty <;> rfl
  | succ levels ih =>
    rw [draw?, reads.inside i, labels i]
    simp only [Option.bind_eq_bind, Option.bind_some, drawBelow?_eq ih]
    rfl

end

end Table

namespace Tree

variable {t : Tree} {options : Options} {source : Evidence.Source}

/-! ## Resolutions that are not out of range -/

theorem reads_children? (t : Tree) : t.graph.Reads (Table.children? t.nodes) :=
  Table.reads_children? t.wellFormed.bounded

theorem getElem?_nodes (t : Tree) (i : Fin t.size) : t.nodes[i.1]? = some (t.node i) :=
  Array.getElem?_eq_getElem i.2

theorem mapM_getElem? (children : List (Fin t.size)) :
    (children.map Fin.val).mapM (fun child => t.nodes[child]?) = some (children.map t.node) := by
  induction children with
  | nil => rfl
  | cons child children ih =>
    rw [List.map_cons, List.mapM_cons, getElem?_nodes, ih]
    rfl

/-- The table of a tree names no node below itself, so that every way down it ends. -/
theorem wellFounded_names (t : Tree) : WellFounded (Graph.Names (Table.children? t.nodes)) :=
  t.reads_children?.wellFounded t.acyclic

theorem isMet_nodes (key : Option String) (child : Fin t.size) :
    Table.isMet t.nodes options source key child =
      decide (t.verdict options source key child = .matched) := by
  rw [Table.isMet, getElem?_nodes]
  rfl

/-- The first child that the evidence meets, among plain indices. -/
theorem find?_isMet (i : Fin t.size) (key : Option String) :
    (t.node i).children.find? (Table.isMet t.nodes options source key) =
      (t.chosen? options source key i).map Fin.val := by
  rw [← map_val_graph, List.find?_map, chosen?]
  exact congrArg (Option.map Fin.val)
    (List.find?_congr fun child _ => isMet_nodes key child)

theorem descend?_eq (i : Fin t.size) (key : Option String) (profile : Option ProfileId) :
    Table.descend? t.nodes t.wellFounded_names options source i key profile =
      some ((descend t options source i key profile).path.map Fin.val,
        (descend t options source i key profile).profile,
        (descend t options source i key profile).stop) := by
  have lookedUp (i : Fin t.size) : (t.node i).children.mapM (fun child => t.nodes[child]?) =
      some ((t.graph i).map t.node) := by
    rw [← map_val_graph, mapM_getElem?]
  have index_eq (i : Fin t.size) : (t.node i).index = i := t.wellFormed.index_eq i i.2
  fun_induction descend t options source i key profile with
  | case1 i key profile child chosen ih =>
    have found : (t.node i).children.find? (Table.isMet t.nodes options source key) =
        some child.1 := by
      rw [find?_isMet, chosen, Option.map_some]
    rw [Table.descend?_of_getElem? t.nodes (t.getElem?_nodes i) (lookedUp i), found, index_eq]
    dsimp only
    rw [getElem?_nodes, Option.bind_some, ih]
    rfl
  | case2 i key profile chosen =>
    have found : (t.node i).children.find? (Table.isMet t.nodes options source key) = none := by
      rw [find?_isMet, chosen, Option.map_none]
    rw [Table.descend?_of_getElem? t.nodes (t.getElem?_nodes i) (lookedUp i), found, index_eq,
      List.map_map]
    rfl

/-! ## Nothing is out of range -/

/-- Nothing that is asked of the table of a tree by plain indices fails, and the answers are those
of the tree: the search for a cycle, the walk over all nodes, the depth, the drawing and
resolutions. -/
structure InRange (t : Tree) : Prop where
  search : Graph.searchAll? (Table.children? t.nodes) t.size =
    some (Graph.searchAll t.graph (Graph.fresh t.size)).plain
  preorder : Graph.preorder? (Table.children? t.nodes) t.size 0 = some (t.preorder.map Fin.val)
  depth : Graph.height? (Table.children? t.nodes) t.wellFounded_names t.size 0 = some t.depth
  drawing : (Table.drawing? t.nodes t.version t.publishDate).map Drawing.text =
    some t.outlineText
  resolve : ∀ options source, Table.resolve? t.nodes t.wellFounded_names options source =
    some (t.resolve options source)

theorem drawing?_eq (t : Tree) : Table.drawing? t.nodes t.version t.publishDate =
    some (t.outline.drawing t.outlineLabel) := by
  have labels (i : Fin t.size) :
      Table.label? t.nodes t.version t.publishDate i = some (t.outlineLabel i) := by
    have same : t.outlineLabel i = if i.1 = 0 then
        (t.node i).label ++ " (v" ++ t.version ++ ", " ++ t.publishDate ++ ")"
        else (t.node i).label := if_congr Fin.ext_iff rfl rfl
    rw [Table.label?, getElem?_nodes, same]
    rfl
  have shown : put? (Array.replicate t.nodes.size false) 0 true =
      some ((Vector.replicate t.size false).set t.root true).toArray :=
    put?_toArray (Vector.replicate t.size false) t.root true
  have drawn : Table.draw? (Table.children? t.nodes) (Table.label? t.nodes t.version t.publishDate)
      (outlineLevels - 1) 0 ((Vector.replicate t.size false).set t.root true).toArray =
        some (Table.plainEntry t.outlineLabel (Entry.ofNode t.graph (outlineLevels - 1) t.root
          ((Vector.replicate t.size false).set t.root true))) :=
    Table.draw?_eq t.reads_children? labels (outlineLevels - 1) t.root _
  unfold Table.drawing?
  rw [shown]
  simp only [Option.bind_eq_bind, Option.bind_some, drawn]
  rfl

theorem resolve?_eq (t : Tree) (options : Options) (source : Evidence.Source) :
    Table.resolve? t.nodes t.wellFounded_names options source =
      some (t.resolve options source) := by
  have root : t.nodes[0]? = some (t.node t.root) := t.getElem?_nodes t.root
  have found : Table.descend? t.nodes t.wellFounded_names options source 0
      (t.node t.root).key (t.node t.root).profile =
        some ((t.descent options source).path.map Fin.val, (t.descent options source).profile,
          (t.descent options source).stop) :=
    t.descend?_eq t.root _ _
  unfold Table.resolve?
  rw [root]
  simp only [Option.bind_eq_bind, Option.bind_some, found]
  rfl

theorem inRange (t : Tree) : t.InRange where
  search := Graph.searchAll?_eq t.reads_children?
  preorder := Graph.preorder?_eq t.reads_children? t.root
  depth := Graph.height?_eq t.reads_children? t.root
  drawing := by
    rw [drawing?_eq, Option.map_some, Drawing.text, Entry.lines_drawing]
    rfl
  resolve := t.resolve?_eq

end Tree

end EvidenceTree
