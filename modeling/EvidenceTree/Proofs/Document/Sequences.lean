import EvidenceTree.Proofs.Graph.Cycles
import EvidenceTree.Proofs.Text.Symbols

/-!
# Documents one after another

A builder keeps the marks of its last search, which a refused document can leave half filled and of
any length. They have no say in the next build: before a search they are made ready for its graph,
and ready marks are all alike. So whatever a builder was given before, it answers as a fresh one
does, and what it is given counts only for the bytes that come out of it.

* `Builder.Feed`: what a builder is given; `Builder.Feed.document`: the bytes that come out of it,
  a stream read chunk by chunk.
* `Builder.feed_eq_outcome`: one build; what a builder keeps has no say in it.
* `Builder.feedAll_eq_map`: any number of builds, one after another.
-/

namespace EvidenceTree

/-! ## Streams chunk by chunk -/

/-- Reads the chunks of a stream behind what has been read of it, up to its end or its failure. -/
def Stream.readOnto (failure : Option String) : (before : ByteArray) → List ByteArray →
    Except String ByteArray
  | before, [] => match failure with
    | some failure => .error failure
    | none => .ok before
  | before, chunk :: chunks => readOnto failure (before ++ chunk) chunks

/-- The bytes of a stream, read to its end. -/
def Stream.readToEnd (stream : Stream) : Except String ByteArray :=
  Stream.readOnto stream.failure .empty stream.chunks

namespace Stream

variable {before : ByteArray} {chunks : List ByteArray} {failure : String}

theorem readOnto_of_failure : readOnto (some failure) before chunks = .error failure := by
  induction chunks generalizing before with
  | nil => rfl
  | cons chunk chunks ih => exact ih

theorem readOnto_of_end : readOnto none before chunks = .ok (chunks.foldl (· ++ ·) before) := by
  induction chunks generalizing before with
  | nil => rfl
  | cons chunk chunks ih => exact ih

/-- Chunks without bytes add nothing. -/
theorem foldl_append_filter : (chunks.filter fun chunk => chunk.size ≠ 0).foldl (· ++ ·) before =
    chunks.foldl (· ++ ·) before := by
  induction chunks generalizing before with
  | nil => rfl
  | cons chunk chunks ih =>
    rw [List.filter_cons, List.foldl_cons]
    split
    · exact ih
    · rename_i bare
      have isEmpty : chunk = .empty := ByteArray.size_eq_zero_iff.1 (by simpa using bare)
      rw [isEmpty, ByteArray.append_empty]
      exact ih

end Stream

namespace Builder

variable {builder builder' : Builder}

/-! ## What a builder is given -/

/-- What a builder is given: a text, bytes, or a stream. -/
inductive Feed where
  | text (s : String)
  | bytes (content : ByteArray)
  | stream (delivery : Stream)

/-- The bytes that come out of what a builder is given, or the failure of a stream. -/
def Feed.document : Feed → Except String ByteArray
  | text s => .ok s.toByteArray
  | bytes content => .ok content
  | stream delivery => delivery.readToEnd

/-- What a fresh builder makes of bytes, or of the failure of a stream. -/
def outcome : Except String ByteArray → Except LoadFault Tree
  | .error failure => .error (.read failure)
  | .ok content => (buildBytes {} content).1.mapError .malformed

theorem Feed.document_of_failure {chunks : List ByteArray} {failure : String} :
    (stream ⟨chunks, some failure⟩).document = .error failure :=
  Stream.readOnto_of_failure

theorem Feed.document_of_end {chunks : List ByteArray} :
    (stream ⟨chunks, none⟩).document = .ok (Stream.bytes ⟨chunks, none⟩) :=
  Stream.readOnto_of_end

/-- Builds the tree of what a builder is given. -/
def feed (builder : Builder) : Feed → Except LoadFault Tree × Builder
  | .text s => ((builder.buildText s).1.mapError .malformed, (builder.buildText s).2)
  | .bytes content =>
    ((builder.buildBytes content).1.mapError .malformed, (builder.buildBytes content).2)
  | .stream delivery => builder.buildStream delivery

/-- Builds the trees of what a builder is given, one after another. -/
def feedAll (builder : Builder) : List Feed → List (Except LoadFault Tree) × Builder
  | [] => ([], builder)
  | first :: rest =>
    let built := builder.feed first
    let others := built.2.feedAll rest
    (built.1 :: others.1, others.2)

/-! ## One build -/

/-- The check finds the same in a graph, whatever marks are left. -/
theorem checkAcyclic_eq {n : Nat} {g : Graph n} :
    (builder.checkAcyclic g).1 = (builder'.checkAcyclic g).1 := by
  cases checked : (builder.checkAcyclic g).1 with
  | error fault =>
    have refused := checkAcyclic_eq_error_iff.1 checked
    exact (checkAcyclic_eq_error_iff.2 refused).symm
  | ok acyclic =>
    cases checked' : (builder'.checkAcyclic g).1 with
    | error fault =>
      have refused := checkAcyclic_eq_error_iff.1 checked'
      cases checked.symm.trans (checkAcyclic_eq_error_iff.2 refused)
    | ok acyclic' =>
      obtain ⟨proof⟩ := acyclic
      obtain ⟨proof'⟩ := acyclic'
      rfl

theorem assemble_eq {version publishDate : String} {data : List Json.Value}
    {rooted : 0 < data.length} :
    (builder.assemble version publishDate data rooted).1 =
      (builder'.assemble version publishDate data rooted).1 := by
  unfold assemble
  split
  · rfl
  · unfold link
    dsimp only
    rw [checkAcyclic_eq]

/-- What a builder keeps has no say in the tree of a document. -/
theorem build_eq {document : Document} :
    (builder.build document).1 = (builder'.build document).1 := by
  unfold build
  split
  · rfl
  · split
    · rfl
    · split
      · rfl
      · split
        · exact assemble_eq
        · rfl

theorem buildSymbols_eq {s : List Text.Symbol} :
    (builder.buildSymbols s).1 = (builder'.buildSymbols s).1 := by
  unfold buildSymbols
  split
  · rfl
  · exact build_eq

/-- What is built is what a fresh builder makes of the bytes that come out. -/
theorem feed_eq_outcome (builder : Builder) (given : Feed) :
    (builder.feed given).1 = outcome given.document := by
  have built (s : List Text.Symbol) : (builder.buildSymbols s).1.mapError LoadFault.malformed =
      (buildSymbols {} s).1.mapError .malformed :=
    congrArg (Except.mapError _) buildSymbols_eq
  cases given with
  | text s =>
    refine (built _).trans ?_
    rw [← Text.Symbol.ofBytes_toByteArray]
    rfl
  | bytes content => exact built _
  | stream delivery =>
    obtain ⟨chunks, failure⟩ := delivery
    cases failure with
    | some failure =>
      rw [Feed.document_of_failure]
      rfl
    | none =>
      rw [Feed.document_of_end]
      exact built _

/-! ## Many builds -/

/-- Each of many builds answers as a fresh builder does. What it answers to are the bytes that come
out of what it is given: those of the chunks of a stream that hold any, put together, unless the
stream fails. -/
theorem feedAll_eq_map (builder : Builder) (feeds : List Feed) :
    (builder.feedAll feeds).1 = feeds.map (fun given => (feed {} given).1) ∧
      (∀ given, (feed {} given).1 = outcome given.document) ∧
      ∀ chunks failure, (Feed.stream ⟨chunks, failure⟩).document = match failure with
        | some failure => .error failure
        | none => .ok ((chunks.filter fun chunk => chunk.size ≠ 0).foldl (· ++ ·) .empty) := by
  refine ⟨?_, feed_eq_outcome {}, ?_⟩
  · induction feeds generalizing builder with
    | nil => rfl
    | cons given rest ih =>
      rw [List.map_cons, ← ih (builder.feed given).2, feed_eq_outcome {}, ← feed_eq_outcome builder]
      rfl
  · intro chunks failure
    cases failure with
    | some failure => exact Feed.document_of_failure
    | none =>
      rw [Stream.foldl_append_filter]
      exact Feed.document_of_end

end Builder

end EvidenceTree
