import EvidenceTree.Proofs.Document.Extensions
import EvidenceTree.Proofs.Resolution.Simulation
import EvidenceTree.Proofs.Tree.RangeTexts

/-!
# Documents that bound a range by one decimal

A document can bound a range by one decimal on both sides, and evidence can be the same decimal as a
text. The two are read in different ways. So the tree that is built from the document meets the very
text of its bounds only where both ways lead to one number.

* `Builder.rangeText`: the text of such a document, for any decimal.
* `Builder.buildText_rangeText`: the tree that is built from it.
* `Builder.resolve_rangeText`: what this tree resolves the text of the bounds to.
-/

namespace EvidenceTree.Builder

open Document (WrittenDescriptor)
open Json (SpellsNumeral Value)
open Text (Symbol)

variable {cs : List Char} {numeral : Json.Numeral} {bound : Finite64}

/-! ## Documents -/

/-- The text of a document with a range below its root, bounded by a decimal on both sides. -/
def rangeText (cs : List Char) : String :=
  "\x7b\"Version\":\"1\",\"PublishDate\":\"d\",\"Data\":[" ++
    "\x7b\"n\":[1]\x7d,\x7b\"m\":\"k\",\"r\":[" ++ String.ofList cs ++ "," ++
      String.ofList cs ++ "],\"x\":7\x7d]\x7d"

/-- The descriptor of the range as it is written. -/
def writtenRange (cs : List Char) : WrittenDescriptor :=
  .object [] [Json.writtenMember ("m", .string "k"),
    Json.writtenUnder "r" ((Json.pairChars cs).map some), Json.writtenMember ("x", .ofNat 7)] []

/-- The descriptors that are written, the range bounded by a number. -/
def rangeData (bound : Finite64) : List Value :=
  [.object [("n", .array [.ofNat 1])],
    .object [("m", .string "k"),
      ("r", .array [.number (.float bound), .number (.float bound)]), ("x", .ofNat 7)]]

theorem symbols_writtenRange (cs : List Char) :
    (writtenRange cs).symbols = Symbol.ofString "\x7b\"m\":\"k\",\"r\":" ++
      ((Json.pairChars cs).map some ++ Symbol.ofString ",\"x\":7\x7d") := by
  have front : Symbol.ofString "\x7b\"m\":\"k\",\"r\":" =
      some '\x7b' :: some '"' :: ((Json.nameChars "m").map some ++ some ':' ::
        ((Value.string "k").chars.map some ++ some ',' :: some '"' ::
          ((Json.nameChars "r").map some ++ [some ':']))) := by
    decide +kernel
  have back : Symbol.ofString ",\"x\":7\x7d" = some ',' :: some '"' ::
      ((Json.nameChars "x").map some ++ some ':' ::
        ((Value.ofNat 7).chars.map some ++ [some '\x7d'])) := by
    decide +kernel
  rw [front, back]
  simp [writtenRange, WrittenDescriptor.symbols, Json.writtenMember, Json.writtenUnder,
    Json.objectSymbols, Json.joined, Json.Member.symbols]

theorem symbols_rangeText (cs : List Char) :
    (writtenDocument [writtenObject [("n", .array [.ofNat 1])], writtenRange cs]).symbols =
      Symbol.ofString (rangeText cs) := by
  have root : (writtenObject [("n", .array [.ofNat 1])]).symbols =
      Symbol.ofString "\x7b\"n\":[1]\x7d" := by
    decide +kernel
  have opening : Symbol.ofString ("\x7b\"Version\":\"1\",\"PublishDate\":\"d\",\"Data\":[" ++
      "\x7b\"n\":[1]\x7d,\x7b\"m\":\"k\",\"r\":[") =
      Symbol.ofString "\x7b\"Version\":\"1\",\"PublishDate\":\"d\",\"Data\":[" ++
        (Symbol.ofString "\x7b\"n\":[1]\x7d" ++ some ',' ::
          (Symbol.ofString "\x7b\"m\":\"k\",\"r\":" ++ [some '['])) := by
    decide +kernel
  have closing : Symbol.ofString "],\"x\":7\x7d]\x7d" =
      some ']' :: (Symbol.ofString ",\"x\":7\x7d" ++ [some ']', some '\x7d']) := by
    decide +kernel
  have around (front between back : String) :
      Symbol.ofString (front ++ String.ofList cs ++ between ++ String.ofList cs ++ back) =
        Symbol.ofString front ++ (cs.map some ++ (Symbol.ofString between ++
          (cs.map some ++ Symbol.ofString back))) := by
    simp only [Symbol.ofString_append, Symbol.ofString_ofList, List.append_assoc]
  unfold rangeText
  rw [around, opening, closing, symbols_writtenDocument, symbols_writtenRange, root]
  have comma : Symbol.ofString "," = [some ','] := rfl
  simp only [comma, Json.pairChars, List.append_assoc, List.cons_append, List.nil_append,
    List.map_cons, List.map_append, List.map_nil]

theorem holds_writtenRange (spells : SpellsNumeral cs numeral) (unpadded : numeral.IsUnpadded)
    (isNumber : numeral.number? = some (.float bound)) :
    (writtenRange cs).Holds (.object [("m", .string "k"),
      ("r", .array [.number (.float bound), .number (.float bound)]), ("x", .ofNat 7)]) := by
  have pair := Json.value_pair spells unpadded (Document.innerLevels - 3) []
  rw [isNumber, List.append_nil] at pair
  have named (name : String) (content : List Symbol) := Json.named_writtenUnder name content
  have ascending : ["m", "r", "x"].Pairwise (· < ·) := by decide
  have sorted : Assoc.Sorted [("m", Value.string "k"),
      ("r", .array [.number (.float bound), .number (.float bound)]), ("x", .ofNat 7)] :=
    List.pairwise_map.1 ascending
  rw [← Assoc.ofList_of_sorted sorted]
  exact .object nofun nofun (.cons ⟨named "m" _, spells_string "k" _⟩
    (.cons ⟨named "r" _, pair⟩ (.cons ⟨named "x" _, Json.spells_chars .number .integer⟩ .nil)))

theorem ofSymbols_rangeText (spells : SpellsNumeral cs numeral) (unpadded : numeral.IsUnpadded)
    (isNumber : numeral.number? = some (.float bound)) :
    Document.ofSymbols (Symbol.ofString (rangeText cs)) =
      .ok ⟨some (.string "1"), some (.string "d"), some (rangeData bound)⟩ := by
  have root : (writtenObject [("n", .array [.ofNat 1])]).Holds
      (.object (Assoc.ofList [("n", .array [.ofNat 1])])) :=
    .object nofun nofun (Json.forall₂_writtenMember (List.forall_mem_singleton.2
      (spells_indices 1 _)))
  rw [← symbols_rangeText]
  exact ofSymbols_writtenDocument (.cons root (.cons (holds_writtenRange spells unpadded isNumber)
    .nil))

/-! ## Trees -/

/-- A root, and below it a profile for one number. -/
def rangeNodes (bound : Finite64) : List Node :=
  [⟨0, .root, none, none, [1]⟩, ⟨1, .range bound bound, some "k", some 7, []⟩]

theorem decodeFrom_rangeData (bound : Finite64) :
    decodeFrom 2 0 (rangeData bound) = .ok (rangeNodes bound) :=
  rfl

theorem wellFormed_rangeNodes (bound : Finite64) : WellFormed (rangeNodes bound).toArray := by
  have sound : SoundFrom (rangeNodes bound).toArray.size 0 (rangeNodes bound).toArray.toList :=
    (soundFrom_of_decodeFrom (decodeFrom_rangeData bound)).2
  refine wellFormed_of_soundFrom Nat.two_pos sound (Graph.acyclic_of_ascending ?_)
  rintro ⟨_ | _ | i, inside⟩ c isChild
  · cases List.mem_singleton.1 isChild
    exact Nat.one_pos
  · cases isChild
  · exact absurd inside (Nat.not_lt.2 (Nat.le_add_left 2 i))

/-- The tree of the document. -/
def rangeTree (bound : Finite64) : Tree :=
  ⟨"1", "d", (rangeNodes bound).toArray, wellFormed_rangeNodes bound⟩

/-- From the document the tree is built with the bound that is read of the decimal. -/
theorem buildText_rangeText (builder : Builder) (spells : SpellsNumeral cs numeral)
    (unpadded : numeral.IsUnpadded) (isNumber : numeral.number? = some (.float bound)) :
    (builder.buildText (rangeText cs)).1 = .ok (rangeTree bound) :=
  buildSymbols_eq_ok_iff.2 ⟨_, ofSymbols_rangeText spells unpadded isNumber,
    .of_decodeFrom (rangeTree bound) (decodeFrom_rangeData bound)⟩

/-- What there is for the range decides: within it, the profile is found. -/
theorem resolve_rangeTree (options : Options) {source : Evidence.Source} {value : Evidence.Value}
    (given : source "k" = some value) :
    (rangeTree bound).resolve options source =
      if (Criterion.range bound bound).accepts options.caseMode value then ⟨some 7, [0, 1], none⟩
      else ⟨none, [0], some .noMatchingBranch⟩ := by
  let t := rangeTree bound
  let below : Fin t.size := ⟨1, Nat.one_lt_two⟩
  have verdict : t.verdict options source none below =
      if (Criterion.range bound bound).accepts options.caseMode value then .matched
      else .rejected := by
    have asked : (t.node below).effectiveKey options.keyPolicy none = some "k" := rfl
    unfold Tree.verdict Node.verdict
    rw [asked, Option.bind_some, given]
    rfl
  have children : t.graph t.root = [below] := rfl
  have key : (t.node below).key.or none = some "k" := rfl
  have last : t.chosen? options source (some "k") below = none := rfl
  have fromRoot : t.resolve options source =
      (descend t options source t.root none none).resolution :=
    rfl
  show t.resolve options source = _
  rw [fromRoot]
  by_cases accepted : (Criterion.range bound bound).accepts options.caseMode value = true
  · have chosen : t.chosen? options source none t.root = some below := by
      unfold Tree.chosen?
      rw [children, List.find?_cons_of_pos]
      rw [verdict, if_pos accepted]
      rfl
    rw [Tree.descend_of_some chosen, key, Tree.descend_of_none last, if_pos accepted]
    rfl
  · have rejected : t.verdict options source none below = .rejected :=
      verdict.trans (if_neg accepted)
    have noneChosen : t.chosen? options source none t.root = none := by
      unfold Tree.chosen?
      rw [children, List.find?_cons_of_neg, List.find?_nil]
      rw [rejected]
      decide
    rw [Tree.descend_of_none noneChosen, children, List.map_singleton, rejected, if_neg accepted]
    rfl

/-- The text of the bounds is resolved to the profile exactly where the number that is read of the
decimal in the document is the nearest one. -/
theorem resolve_rangeText (builder : Builder) (spells : SpellsNumeral cs numeral)
    (unpadded : numeral.IsUnpadded) (isNumber : numeral.number? = some (.float bound)) :
    ∃ tree, (builder.buildText (rangeText cs)).1 = .ok tree ∧ ∀ options,
      tree.resolve options (.ofAssoc [("k", .text (String.ofList cs))]) =
        if numeral.nearest = .finite bound then ⟨some 7, [0, 1], none⟩
        else ⟨none, [0], some .noMatchingBranch⟩ := by
  have sign := (Json.Numeral.float?_of_number? isNumber).2
  refine ⟨_, buildText_rangeText builder spells unpadded isNumber, fun options => ?_⟩
  rw [resolve_rangeTree options rfl]
  simp only [Criterion.accepts_text_iff spells sign]

/-- A decimal of one digit that is not resolved where it is a bound itself. -/
example : ∃ tree, (buildText {} (rangeText ['3', 'e', '2', '3'])).1 = .ok tree ∧
    tree.resolve {} (.ofAssoc [("k", .text "3e23")]) = ⟨none, [0], some .noMatchingBranch⟩ := by
  obtain ⟨tree, built, resolved⟩ := resolve_rangeText {} Json.spells_threeTimesPower nofun
    Json.number?_threeTimesPower
  exact ⟨tree, built, (resolved {}).trans (if_neg Json.nearest_threeTimesPower_ne)⟩

end EvidenceTree.Builder
