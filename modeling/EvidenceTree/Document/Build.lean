import EvidenceTree.Document.Basic
import EvidenceTree.Document.Descriptor
import EvidenceTree.Graph.CycleSearch
import EvidenceTree.Json.Printer
import EvidenceTree.Tree.Basic

/-!
# Building trees

A tree is built from a document in one pass over its descriptors, in the order of the table, and a
search for cycles over the whole table, what the root does not reach included. The first fault ends
the build. The marks of the search are kept for the next build.

* `soundFrom_of_decodeFrom`: the nodes that come out of the descriptors make a table but for
  acyclicity, which the search decides.
-/

namespace EvidenceTree

open Json (Value)

/-! ## Faults -/

/-- What is wrong with a descriptor. -/
inductive DescriptorFault where
  | misfit (cause : Json.Misfit)
  | defective (index : Nat) (defect : Descriptor.Defect)
  | outOfBounds (index child size : Nat)
  deriving DecidableEq

/-- The words for a faulty descriptor. -/
def DescriptorFault.message : DescriptorFault → String
  | misfit cause => cause.message
  | defective index defect => "node " ++ toString index ++ ": " ++ defect.message
  | outOfBounds index child size =>
    "node " ++ toString index ++ ": child index " ++ toString child ++
      " out of bounds (table has " ++ toString size ++ " nodes)"

/-- Why there is no tree in a document. -/
inductive Malformed where
  | unreadable (fault : Json.Fault)
  | noVersion
  | noPublishDate
  | noData
  | noRoot
  | descriptor (fault : DescriptorFault) (source : Value)
  | cyclic (parent child : Nat)

namespace Malformed

/-- What is wrong. -/
def reason : Malformed → String
  | unreadable fault => "invalid document: " ++ fault.message
  | noVersion => "missing Version"
  | noPublishDate => "missing PublishDate"
  | noData => "missing Data"
  | noRoot => "Data holds no root node"
  | descriptor fault _ => fault.message
  | cyclic parent child =>
    "cycle detected: node " ++ toString child ++ " is its own descendant (via node " ++
      toString parent ++ ")"

/-- The descriptor that is at fault, as JSON on one line. -/
def descriptorText? : Malformed → Option String
  | descriptor _ source => some source.text
  | _ => none

/-- The words for a malformed document. -/
def message (m : Malformed) : String :=
  "malformed tree data: " ++ m.reason ++
    match m.descriptorText? with
    | some text => " (descriptor: " ++ text ++ ")"
    | none => ""

end Malformed

/-! ## From descriptors to nodes -/

/-- A version or a publication date: a text, or a number as it is written. -/
def Document.partText? : Value → Option String
  | .string s => some s
  | .number n => some n.text
  | _ => none

/-- The node of a descriptor in a table of `size` nodes. -/
def decodeNode (size index : Nat) (source : Value) : Except DescriptorFault Node :=
  match Descriptor.ofValue source with
  | .error cause => .error (.misfit cause)
  | .ok descriptor =>
    match descriptor.node index with
    | .error defect => .error (.defective index defect)
    | .ok node =>
      match node.children.find? fun child => size ≤ child with
      | some child => .error (.outOfBounds index child size)
      | none => .ok node

/-- The nodes of the descriptors from an index on, up to the first that is at fault. -/
def decodeFrom (size : Nat) : (index : Nat) → List Value → Except Malformed (List Node)
  | _, [] => .ok []
  | index, source :: rest =>
    match decodeNode size index source with
    | .error fault => .error (.descriptor fault source)
    | .ok node => (decodeFrom size (index + 1) rest).map (node :: ·)

/-- A node in its place of a table of `size` nodes. -/
structure Sound (size index : Nat) (node : Node) : Prop where
  index_eq : node.index = index
  root_iff : node.criterion = .root ↔ index = 0
  bounded : ∀ c ∈ node.children, c < size

theorem sound_of_decodeNode {size index : Nat} {source : Value} {node : Node}
    (decoded : decodeNode size index source = .ok node) : Sound size index node := by
  unfold decodeNode at decoded
  split at decoded
  · cases decoded
  · rename_i descriptor _
    split at decoded
    · cases decoded
    · rename_i found made
      split at decoded
      · cases decoded
      · rename_i none_out
        cases decoded
        unfold Descriptor.node at made
        cases classified : descriptor.criterion index with
        | error defect =>
          rw [classified] at made
          cases made
        | ok criterion =>
          rw [classified] at made
          cases made
          refine ⟨rfl, Descriptor.criterion_eq_root_iff classified, fun c hc => ?_⟩
          have := List.find?_eq_none.1 none_out c hc
          simpa using this

/-- The nodes of a table from an index on, each in its place. -/
def SoundFrom (size index : Nat) (nodes : List Node) : Prop :=
  ∀ i (h : i < nodes.length), Sound size (index + i) nodes[i]

theorem soundFrom_of_decodeFrom {size index : Nat} {data : List Value} {nodes : List Node}
    (decoded : decodeFrom size index data = .ok nodes) :
    nodes.length = data.length ∧ SoundFrom size index nodes := by
  induction data generalizing index nodes with
  | nil =>
    cases decoded
    exact ⟨rfl, fun i h => absurd h (Nat.not_lt_zero i)⟩
  | cons source rest ih =>
    unfold decodeFrom at decoded
    split at decoded
    · cases decoded
    · rename_i node first
      cases others : decodeFrom size (index + 1) rest with
      | error fault =>
        rw [others] at decoded
        cases decoded
      | ok tail =>
        rw [others] at decoded
        cases decoded
        obtain ⟨same_length, sound⟩ := ih others
        refine ⟨by simp [same_length], fun i h => ?_⟩
        cases i with
        | zero => exact sound_of_decodeNode first
        | succ i =>
          have := sound i (by simpa using h)
          rw [Nat.add_assoc, Nat.add_comm 1 i] at this
          exact this

/-! ## From nodes to a tree -/

section

variable {nodes : Array Node}

theorem bounded_of_soundFrom (sound : SoundFrom nodes.size 0 nodes.toList) :
    ∀ i (h : i < nodes.size), ∀ c ∈ nodes[i].children, c < nodes.size :=
  fun i h => (sound i (by simpa using h)).bounded

theorem wellFormed_of_soundFrom (rooted : 0 < nodes.size)
    (sound : SoundFrom nodes.size 0 nodes.toList)
    (acyclic : (childGraph nodes (bounded_of_soundFrom sound)).Acyclic) : WellFormed nodes where
  rooted := rooted
  index_eq i h := (sound i (by simpa using h)).index_eq.trans (Nat.zero_add i)
  root_iff i h := (sound i (by simpa using h)).root_iff.trans (by rw [Nat.zero_add])
  bounded := bounded_of_soundFrom sound
  acyclic := acyclic

end

/-- What builds trees. It keeps the marks of its last search. -/
structure Builder where
  marks : Array Graph.Mark := #[]

namespace Builder

/-- Searches a graph for a cycle, whatever marks an earlier search left. A graph without one is
acyclic. -/
def checkAcyclic {n : Nat} (builder : Builder) (g : Graph n) :
    Except Malformed (PLift g.Acyclic) × Builder :=
  let search := Graph.searchAll g (Graph.ready builder.marks n)
  let result :=
    match closed : search.closing with
    | some edge => .error (.cyclic edge.parent edge.child)
    | none =>
      .ok ⟨Graph.acyclic_of_closing_eq_none (Graph.ready_eq_fresh builder.marks n ▸ closed)⟩
  (result, ⟨search.marks.toArray⟩)

/-- Searches a table for cycles and makes it a tree if there is none. -/
def link (builder : Builder) (version publishDate : String) (nodes : Array Node)
    (rooted : 0 < nodes.size) (sound : SoundFrom nodes.size 0 nodes.toList) :
    Except Malformed Tree × Builder :=
  let (checked, builder) := builder.checkAcyclic (childGraph nodes (bounded_of_soundFrom sound))
  (checked.map fun acyclic =>
    ⟨version, publishDate, nodes, wellFormed_of_soundFrom rooted sound acyclic.down⟩, builder)

/-- Decodes the descriptors, of which there is at least one, and links their nodes. -/
def assemble (builder : Builder) (version publishDate : String) (data : List Value)
    (rooted : 0 < data.length) : Except Malformed Tree × Builder :=
  match decoded : decodeFrom data.length 0 data with
  | .error fault => (.error fault, builder)
  | .ok nodes =>
    have sound := soundFrom_of_decodeFrom decoded
    builder.link version publishDate nodes.toArray (by simpa [sound.1] using rooted)
      (by simpa [sound.1] using sound.2)

/-- Builds the tree of a document. -/
def build (builder : Builder) (document : Document) : Except Malformed Tree × Builder :=
  match document.version.bind Document.partText? with
  | none => (.error .noVersion, builder)
  | some version =>
    match document.publishDate.bind Document.partText? with
    | none => (.error .noPublishDate, builder)
    | some publishDate =>
      match document.data with
      | none => (.error .noData, builder)
      | some data =>
        if rooted : 0 < data.length then builder.assemble version publishDate data rooted
        else (.error .noRoot, builder)

/-- Builds the tree that symbols spell. -/
def buildSymbols (builder : Builder) (s : List Text.Symbol) : Except Malformed Tree × Builder :=
  match Document.ofSymbols s with
  | .error fault => (.error (.unreadable fault), builder)
  | .ok document => builder.build document

/-- Builds the tree that a text spells. -/
def buildText (builder : Builder) (s : String) : Except Malformed Tree × Builder :=
  builder.buildSymbols (Text.Symbol.ofString s)

/-- Builds the tree that bytes spell. -/
def buildBytes (builder : Builder) (bytes : ByteArray) : Except Malformed Tree × Builder :=
  builder.buildSymbols (Text.Symbol.ofBytes bytes)

end Builder

/-! ## From a stream -/

/-- What a stream delivers: chunks of bytes, and then its end or a failure. The chunks are what is
delivered before that. A read without bytes is the end: what a stream would give behind it is never
asked for. -/
structure Stream where
  chunks : List ByteArray
  failure : Option String := none

/-- All bytes that a stream delivers. -/
def Stream.bytes (stream : Stream) : ByteArray := stream.chunks.foldl (· ++ ·) .empty

/-- Why no tree came from a stream: what it delivered is malformed, or it failed. -/
inductive LoadFault where
  | malformed (cause : Malformed)
  | read (failure : String)

/-- The words for a stream without a tree. -/
def LoadFault.message : LoadFault → String
  | malformed cause => cause.message
  | read failure => failure

/-- Builds the tree that a stream delivers. A failure counts more than what came before it. -/
def Builder.buildStream (builder : Builder) (stream : Stream) : Except LoadFault Tree × Builder :=
  match stream.failure with
  | some failure => (.error (.read failure), builder)
  | none =>
    let (result, builder) := builder.buildBytes stream.bytes
    (result.mapError .malformed, builder)

end EvidenceTree
