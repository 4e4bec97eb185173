import EvidenceTree.Proofs.CommandLine.Batch
import EvidenceTree.Proofs.Tree.OutlineLines

/-!
# Traces

A request in words may ask for the way that its evidence took. Below a header each node on the way
is printed by its label, as an outline prints it, and takes as many lines.

* `CommandLine.Traced`: a resolution with the labels of the nodes on its path below it.
* `CommandLine.traced_output`: what such a request prints.
* `CommandLine.lineCount_printed`: how many lines outlines and traces have.
-/

namespace EvidenceTree

open Text (OneLine allBreaks allBreaks_eq_zero_iff allBreaks_map_eq breaks breaks_append lineCount
  lineCount_join)

/-- The nodes of a way are found under their indices. -/
theorem Tree.filterMap_node? (t : Tree) (path : List (Fin t.size)) :
    (path.map Fin.val).filterMap t.node? = path.map t.node := by
  have found (i : Fin t.size) : t.node? i.1 = some (t.node i) := Array.getElem?_eq_getElem i.2
  rw [List.filterMap_map, ← List.filterMap_eq_map]
  exact List.filterMap_congr fun i _ => found i

namespace CommandLine

variable {fs : FileSystem} {env : Environment} {settingsFile : Option String}
  {request : ResolveRequest} {tree : Tree} {options : Options}
  {evidence : Assoc Evidence.Value}

/-- The labels of nodes, one below the other. -/
def labelLines (nodes : List Node) : String :=
  String.join (nodes.map fun node => line ("  " ++ node.label))

/-- A text says a resolution on its first line, and below the header on its second line the labels
of the nodes on the path, in order. They have a line each, and one more for each line break in what
they show as it is. -/
structure Traced (tree : Tree) (r : Resolution) (output : String) (nodes : List Node) : Prop where
  path : List.Forall₂ (fun i node => tree.node? i = some node) r.path nodes
  output : output = markedLine r ++ line "Path" ++ labelLines nodes
  header : lineCount (markedLine r ++ line "Path") = 2
  lines : lineCount (labelLines nodes) = r.path.length + allBreaks (nodes.flatMap Node.bareTexts)
  plain : lineCount (labelLines nodes) = r.path.length ↔
    ∀ node ∈ nodes, ∀ text ∈ node.bareTexts, OneLine text

theorem lineCount_labelLines (nodes : List Node) :
    lineCount (labelLines nodes) = nodes.length + allBreaks (nodes.flatMap Node.bareTexts) := by
  have each (node : Node) : breaks ("  " ++ node.label) = allBreaks node.bareTexts := by
    have indent : breaks "  " = 0 := rfl
    rw [breaks_append, indent, Nat.zero_add, node.breaks_label]
  have printed := lineCount_join (nodes.map fun node => "  " ++ node.label)
  rw [List.map_map, List.length_map, allBreaks_map_eq each] at printed
  exact printed

theorem lineCount_header (r : Resolution) : lineCount (markedLine r ++ line "Path") = 2 := by
  have mark : OneLine ((if r.isMatch then "✓ " else "✗ ") ++ r.message) := by
    refine OneLine.append ?_ r.oneLine_message
    split <;> decide
  have printed := lineCount_join [(if r.isMatch then "✓ " else "✗ ") ++ r.message, "Path"]
  have none : allBreaks [(if r.isMatch then "✓ " else "✗ ") ++ r.message, "Path"] = 0 :=
    allBreaks_eq_zero_iff.2 (List.forall_mem_cons.2 ⟨mark, by decide⟩)
  rw [none] at printed
  simpa [markedLine, line, String.append_assoc] using printed

/-- A request in words that asks for the way prints it below the resolution. -/
theorem traced_output
    (opens : Opens fs env settingsFile request.dataFile request.matching tree options)
    (gathered : gather fs request = .ok evidence) (inWords : request.json = false)
    (traced : request.trace = true) :
    ∃ nodes, Traced tree (tree.resolve options (.ofAssoc evidence))
      (Invocation.answer fs env ⟨settingsFile, some (.resolve request)⟩).output nodes := by
  generalize way : tree.descent options (.ofAssoc evidence) = found
  have resolved : tree.resolve options (.ofAssoc evidence) = found.resolution :=
    congrArg Descent.resolution way
  have path : found.resolution.path = found.path.map Fin.val := rfl
  refine ⟨found.path.map tree.node, ?_⟩
  rw [resolved]
  refine
    { path := ?_
      output := ?_
      header := lineCount_header _
      lines := ?_
      plain := ?_ }
  · rw [path, List.forall₂_map_left_iff, List.forall₂_map_right_iff, List.forall₂_same]
    exact fun i _ => Array.getElem?_eq_getElem i.2
  · rw [output_of_gather opens gathered, resolved]
    unfold resolutionText traceText
    rw [inWords, traced, path, tree.filterMap_node?, if_neg (by decide), if_pos rfl,
      String.append_assoc]
    rfl
  · rw [lineCount_labelLines, path, List.length_map, List.length_map]
  · rw [lineCount_labelLines, path, List.length_map, List.length_map, Nat.add_eq_left,
      allBreaks_eq_zero_iff, List.forall_mem_flatMap]

/-- An outline has a line for each entry, a trace one for each node on the path, and both one more
for each line break in a key; the outline also in the version and in the date at the root. -/
theorem lineCount_printed (tree : Tree) :
    lineCount tree.outlineText =
        tree.outline.inOrder.length + allBreaks (tree.outline.owned.flatMap tree.bareTexts) ∧
      (lineCount tree.outlineText = tree.outline.inOrder.length ↔
        ∀ i ∈ tree.outline.owned, ∀ text ∈ tree.bareTexts i, OneLine text) ∧
      ∀ (fs : FileSystem) (env : Environment) (settingsFile : Option String)
        (request : ResolveRequest) (options : Options) (evidence : Assoc Evidence.Value),
        Opens fs env settingsFile request.dataFile request.matching tree options →
          gather fs request = .ok evidence → request.json = false → request.trace = true →
            ∃ nodes, Traced tree (tree.resolve options (.ofAssoc evidence))
              (Invocation.answer fs env ⟨settingsFile, some (.resolve request)⟩).output nodes :=
  ⟨tree.lineCount_outlineText, tree.lineCount_outlineText_eq_iff,
    fun _ _ _ _ _ _ => traced_output⟩

/-! ### A key on two lines -/

/-- What the file with the tree holds. -/
def brokenText : String :=
  "[\"1\",\"d\",[\x7b\"n\":[1]\x7d,\x7b\"m\":\"a\\nb\",\"v\":\"c\",\"x\":7\x7d]]"

/-- A file with a tree that asks under a key with a line break. -/
def broken : FileSystem where
  openFile path := if path = "tree" then .ok (.content brokenText.toUTF8) else .error .notFound
  present _ := false

/-- The descriptors in the file. -/
def brokenData : List Json.Value :=
  [.object [("n", .array [.ofNat 1])],
    .object [("m", .string "a\nb"), ("v", .string "c"), ("x", .ofNat 7)]]

/-- The tree in the file. -/
def brokenTree : Tree where
  version := "1"
  publishDate := "d"
  nodes := #[⟨0, .root, none, none, [1]⟩, ⟨1, .literal "c", some "a\nb", some 7, []⟩]
  wellFormed :=
    { rooted := by decide
      index_eq := by decide
      root_iff := by decide
      bounded := by decide
      acyclic := Graph.acyclic_of_ascending (by decide) }

theorem holds_broken :
    (match Document.ofSymbols (Text.Symbol.ofBytes brokenText.toUTF8) with
      | .ok ⟨some (.string "1"), some (.string "d"),
          some [.object [("n", .array [.number (.integer 1 _)])],
            .object [("m", .string "a\nb"), ("v", .string "c"), ("x", .number (.integer 7 _))]]⟩ =>
        true
      | _ => false) = true := by
  decide +kernel

theorem loadTree_broken : loadTree broken "tree" = .ok brokenTree := by
  have document : Document.ofSymbols (Text.Symbol.ofBytes brokenText.toUTF8) =
      .ok ⟨some (.string "1"), some (.string "d"), some brokenData⟩ := by
    have found := holds_broken
    split at found
    · assumption
    · cases found
  exact loadTree_of_represents rfl document (.of_decodeFrom brokenTree rfl)

/-- A request in words, with a pair under that key, that asks for the way. -/
def brokenRequest : ResolveRequest where
  dataFile := some "tree"
  pairs := ["a\nb=c"]
  trace := true

/-- The line break is counted in the outline and in the trace. -/
theorem lineCount_printed_broken :
    lineCount brokenTree.outlineText = 2 + 1 ∧
      ∃ nodes, Traced brokenTree ⟨some 7, [0, 1], none⟩
        (Invocation.answer broken {} ⟨none, some (.resolve brokenRequest)⟩).output nodes := by
  have opens : Opens broken {} none brokenRequest.dataFile brokenRequest.matching brokenTree {} :=
    ⟨{}, rfl, loadTree_broken, rfl⟩
  have resolved : brokenTree.resolve {} (.ofAssoc [("a\nb", .text "c")]) =
      ⟨some 7, [0, 1], none⟩ := by cbv
  have lines : brokenTree.outline.inOrder.length +
      allBreaks (brokenTree.outline.owned.flatMap brokenTree.bareTexts) = 2 + 1 := by
    decide +kernel
  obtain ⟨outline, -, traces⟩ := lineCount_printed brokenTree
  refine ⟨outline.trans lines, ?_⟩
  rw [← resolved]
  exact traces broken {} none brokenRequest {} _ opens rfl rfl rfl

/-- The outline has two entries on three lines, and the trace has three lines for a path of two
nodes. -/
theorem lines_exceed_entries :
    loadTree broken "tree" = .ok brokenTree ∧
      brokenTree.outline.inOrder.length = 2 ∧ lineCount brokenTree.outlineText = 3 ∧
      (brokenTree.resolve {} (.ofAssoc [("a\nb", .text "c")])).path.length = 2 ∧
      (Invocation.answer broken {} ⟨none, some (.resolve brokenRequest)⟩).output =
        "✓ 7 [path: 0 -> 1]\nPath\n" ++ "  #0 root\n  #1 a\nb == \"c\" => 7\n" ∧
      lineCount "  #0 root\n  #1 a\nb == \"c\" => 7\n" = 3 := by
  have outline : lineCount brokenTree.outlineText = 3 := by decide +kernel
  have opens : Opens broken {} none brokenRequest.dataFile brokenRequest.matching brokenTree {} :=
    ⟨{}, rfl, loadTree_broken, rfl⟩
  have gathered : gather broken brokenRequest = .ok [("a\nb", .text "c")] := rfl
  have resolved : brokenTree.resolve {} (.ofAssoc [("a\nb", .text "c")]) =
      ⟨some 7, [0, 1], none⟩ := by cbv
  have printed : resolutionText brokenRequest brokenTree ⟨some 7, [0, 1], none⟩ =
      "✓ 7 [path: 0 -> 1]\nPath\n" ++ "  #0 root\n  #1 a\nb == \"c\" => 7\n" := by decide +kernel
  refine ⟨loadTree_broken, rfl, outline, by rw [resolved]; rfl, ?_, by decide +kernel⟩
  rw [output_of_gather opens gathered, resolved, printed]

end CommandLine

end EvidenceTree
