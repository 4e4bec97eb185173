import EvidenceTree.Proofs.Document.Refusals
import EvidenceTree.Proofs.Json.RoundTrips

/-!
# The descriptor that a refusal shows

A refusal that blames a descriptor shows it as a text. What is shown is the element of the list as
it was decoded, so however it was written in the document, reading the text gives it back, unless
one of its numbers is a float, which may lose its last digits.

* `Document.hasDecoded_of_ofSymbols`: what the descriptors of a document are made of.
* `Builder.ofText_descriptorText`: the text of a refusal is read back.
-/

namespace EvidenceTree

open Json (Fault Value Takes)
open Text (Read Symbol)

/-! ## The descriptors of a document -/

namespace Document

variable {s rest : List Symbol} {document : Document} {data : List Value}

/-- The descriptors of a list are decoded two levels below the document. -/
theorem isDecoded_of_readData (takes : Takes (readData s) (some data) rest) :
    ∀ source ∈ data, source.IsDecoded (innerLevels - 1) := by
  intro source inData
  obtain ⟨_, ran⟩ := takes
  unfold readData at ran
  split at ran
  · obtain ⟨_, -, ⟨⟩⟩ := map_eq_ok_iff.1 ran
  · obtain ⟨read, listRead, ⟨⟩⟩ := map_eq_ok_iff.1 ran
    obtain ⟨_, _, -, -, all⟩ := (Json.takes_list_iff (Json.isLocal_value (innerLevels - 1))
      (Json.opensItem_value (innerLevels - 1))).1 ⟨read.shorter, listRead⟩
    obtain ⟨_, -, holds⟩ := Json.exists_of_mem_forall₂ all inData
    exact Json.isDecoded_of_takes holds.content
  · cases ran

/-- The descriptors that are known so far are decoded at their depth. -/
def HasDecoded (document : Document) : Prop :=
  ∀ data, document.data = some data → ∀ source ∈ data, source.IsDecoded (innerLevels - 1)

theorem partReader_keeps_hasDecoded :
    partReader.Keeps fun progress => progress.document.HasDecoded := by
  intro progress name s read decoded run
  change takePart progress name s = .ok read at run
  unfold takePart at run
  split at run
  · obtain ⟨_, -, rfl⟩ := map_eq_ok_iff.1 run
    exact decoded
  · obtain ⟨_, -, rfl⟩ := map_eq_ok_iff.1 run
    exact decoded
  · obtain ⟨part, partRead, rfl⟩ := map_eq_ok_iff.1 run
    intro data found
    have found : part.item = some data := found
    have takes : Takes (readData s) part.item part.rest := ⟨part.shorter, partRead⟩
    rw [found] at takes
    exact isDecoded_of_readData takes
  · obtain ⟨_, -, rfl⟩ := map_eq_ok_iff.1 run
    exact decoded

theorem hasDecoded_of_readList {read : Read Document s} (run : readList s = .ok read) :
    read.item.HasDecoded := by
  unfold readList at run
  split at run
  · cases run
  · cases run
  · obtain ⟨version, -, run⟩ := bind_eq_ok_iff.1 run
    obtain ⟨publishDate, -, run⟩ := bind_eq_ok_iff.1 run
    obtain ⟨part, partRead, run⟩ := bind_eq_ok_iff.1 run
    obtain ⟨ended, -, ⟨⟩⟩ := bind_eq_ok_iff.1 run
    intro data found
    have found : part.item = some data := found
    have takes : Takes (readData publishDate.rest) part.item part.rest := ⟨part.shorter, partRead⟩
    rw [found] at takes
    exact isDecoded_of_readData takes

/-- The descriptors of a document are decoded two levels below it, in either form. -/
theorem hasDecoded_of_ofSymbols (run : ofSymbols s = .ok document) : document.HasDecoded := by
  unfold ofSymbols at run
  split at run
  · obtain ⟨read, objectRead, run⟩ := bind_eq_ok_iff.1 run
    obtain ⟨_, -, ⟨⟩⟩ := bind_eq_ok_iff.1 run
    obtain ⟨progress, membersRead, rfl⟩ := map_eq_ok_iff.1 objectRead
    exact Json.members_keeps partReader_keeps_hasDecoded (fun _ none => by cases none) membersRead
  · obtain ⟨read, listRead, run⟩ := bind_eq_ok_iff.1 run
    obtain ⟨_, -, ⟨⟩⟩ := bind_eq_ok_iff.1 run
    exact hasDecoded_of_readList listRead
  · cases run

end Document

/-! ## What is shown -/

namespace Builder

variable {builder : Builder} {document : Document} {fault : Malformed} {text : String}

/-- A refusal shows a text only of a descriptor that could not be decoded. -/
theorem exists_decodeFrom_of_descriptorText (refused : (builder.build document).1 = .error fault)
    (shown : fault.descriptorText? = some text) :
    ∃ data, document.data = some data ∧ decodeFrom data.length 0 data = .error fault := by
  unfold build at refused
  split at refused
  · cases refused
    cases shown
  · split at refused
    · cases refused
      cases shown
    · split at refused
      · cases refused
        cases shown
      · rename_i data here
        split at refused
        · rcases of_assemble_eq_error refused with undecoded | ⟨_, -, _, _, rfl, -⟩
          · exact ⟨data, here, undecoded⟩
          · cases shown
        · cases refused
          cases shown

/-- A text that a refusal shows is that of the first descriptor that is faulty, and unless there is
a float within that descriptor, it is read back as the very element of the list. -/
theorem ofText_descriptorText {s : List Symbol}
    (refused : (builder.buildSymbols s).1 = .error fault)
    (shown : fault.descriptorText? = some text) :
    ∃ document data i source cause, Document.ofSymbols s = .ok document ∧
      document.data = some data ∧ data[i]? = some source ∧
      FirstFault data.length i source cause ∧ fault = .descriptor cause source ∧
      (∀ j < i, ∀ earlier, data[j]? = some earlier → ¬ Faulty data.length j earlier) ∧
      text = source.text ∧ (source.IsFloatFree → Value.ofText text = .ok source) := by
  unfold buildSymbols at refused
  split at refused
  · cases refused
    cases shown
  · rename_i document read
    obtain ⟨data, here, undecoded⟩ := exists_decodeFrom_of_descriptorText refused shown
    obtain ⟨i, source, cause, placed, first, lowest, rfl⟩ := exists_lowest_of_decodeFrom undecoded
    cases shown
    have decoded : source.IsDecoded (Document.innerLevels - 1) :=
      Document.hasDecoded_of_ofSymbols read data here source (List.mem_of_getElem? placed)
    exact ⟨document, data, i, source, cause, read, here, placed, first, rfl, lowest, rfl,
      Value.ofText_text (decoded.mono (by decide))⟩

/-- A document whose second descriptor asks nothing, with a member twice, escapes and the integers
at both ends. -/
def unaskedText : String :=
  "\x7b\"Version\":\"1\",\"PublishDate\":\"d\",\"Data\":[\x7b\"n\":[1]\x7d,\x7b\"z\":\x7b\"b\":" ++
    "[-9223372036854775808, 18446744073709551615],\"a\":\"\\u0001\\n\\\"\\u00e9\"\x7d, " ++
    "\"m\":\"k\",\"x\":12, \"m\":\"l\"\x7d]\x7d"

/-- The descriptor as it is decoded. -/
def unasked : Value :=
  .object
    [ ("m", .string "l")
    , ("x", .number (.integer 12 (by decide)))
    , ("z", .object
        [ ("a", .string "\x01\n\"é")
        , ("b", .array
            [ .number (.integer (-9223372036854775808) (by decide))
            , .number (.integer 18446744073709551615 (by decide)) ]) ]) ]

theorem holds_unaskedText :
    (match Document.ofSymbols (Text.Symbol.ofString unaskedText) with
      | .ok ⟨some (.string "1"), some (.string "d"),
          some [.object [("n", .array [.number (.integer 1 _)])],
            .object [("m", .string "l"), ("x", .number (.integer 12 _)), ("z", .object
              [("a", .string a), ("b", .array [.number (.integer low _),
                .number (.integer high _)])])]]⟩ =>
        decide (a = "\x01\n\"é" ∧ low = -9223372036854775808 ∧ high = 18446744073709551615)
      | _ => false) = true := by
  decide +kernel

theorem ofSymbols_unaskedText : Document.ofSymbols (Text.Symbol.ofString unaskedText) =
    .ok ⟨some (.string "1"), some (.string "d"),
      some [.object [("n", .array [.number (.integer 1 (by decide))])], unasked]⟩ := by
  have found := holds_unaskedText
  split at found
  · rename_i read
    obtain ⟨isText, isLow, isHigh⟩ := of_decide_eq_true found
    subst isText isLow isHigh
    exact read
  · cases found

/-- The descriptor is shown with its members in order and each name once, and is read back. -/
theorem ofText_unasked :
    ∃ fault, ((⟨#[]⟩ : Builder).buildText unaskedText).1 = .error fault ∧
      fault.descriptorText? = some unasked.text ∧ Value.ofText unasked.text = .ok unasked := by
  have refused : ((⟨#[]⟩ : Builder).buildSymbols (Text.Symbol.ofString unaskedText)).1 =
      .error (.descriptor (.defective 1 .noQuestion) unasked) := by
    unfold buildSymbols
    rw [ofSymbols_unaskedText]
    rfl
  have floatFree : unasked.IsFloatFree := by
    refine .object ?_
    simp only [List.forall_mem_cons, List.not_mem_nil, false_imp_iff, forall_true_iff, and_true]
    refine ⟨.string, .integer, .object ?_⟩
    simp only [List.forall_mem_cons, List.not_mem_nil, false_imp_iff, forall_true_iff, and_true]
    refine ⟨.string, .array ?_⟩
    simp only [List.forall_mem_cons, List.not_mem_nil, false_imp_iff, forall_true_iff, and_true]
    exact ⟨.integer, .integer⟩
  obtain ⟨_, _, _, source, _, -, -, -, -, same, -, -, readBack⟩ := ofText_descriptorText refused rfl
  cases same
  exact ⟨_, refused, rfl, readBack floatFree⟩

end Builder

end EvidenceTree
