import EvidenceTree.Proofs.Binary64.Shortest
import EvidenceTree.Proofs.Resolution.Simulation
import Mathlib.Data.Option.Basic

/-!
# Numbers written out

A criterion looks at a value as a text or as a number and at nothing else of it. A number and its
text are the same in both, so it does not matter which of the two the evidence holds.

* `Evidence.Value.Alike`: values that no criterion tells apart.
* `Tree.resolve_eq_of_alike`: sources with such values give the same answers.
* `Tree.resolve_spelt`: numbers may be written out anywhere in the evidence.
-/

namespace EvidenceTree

namespace Evidence

/-- Values that are the same as texts and the same as numbers. -/
structure Value.Alike (value value' : Value) : Prop where
  text : value'.toText = value.toText
  number : value'.toNumber? = value.toNumber?

theorem Value.Alike.refl (value : Value) : value.Alike value := ⟨rfl, rfl⟩

/-- A value and its text are alike. -/
theorem Value.alike_text (value : Value) : value.Alike (.text value.toText) := by
  cases value with
  | text s => exact .refl _
  | number x => exact ⟨rfl, Binary64.ofText?_text x⟩

/-- The evidence with the texts of the values under some keys in place of the values. -/
def Source.spelt (keys : String → Bool) (source : Source) : Source := fun key =>
  (source key).map fun value => if keys key then .text value.toText else value

/-- Two sources that have values under the same keys, each alike. -/
def Source.Alike (source source' : Source) : Prop :=
  ∀ key, Option.Rel Value.Alike (source key) (source' key)

theorem Source.alike_spelt (source : Source) (keys : String → Bool) :
    source.Alike (source.spelt keys) := by
  intro key
  unfold spelt
  cases source key with
  | none => exact .none
  | some value =>
    refine .some ?_
    dsimp only
    split
    · exact value.alike_text
    · exact .refl value

end Evidence

variable {criterion : Criterion} {value value' : Evidence.Value} {t : Tree} {options : Options}
  {source source' : Evidence.Source}

theorem Criterion.accepts_eq_of_alike (mode : CaseMode) (alike : value.Alike value') :
    criterion.accepts mode value' = criterion.accepts mode value := by
  cases criterion with
  | root => rfl
  | literal text =>
    unfold accepts
    rw [alike.text]
  | range low high =>
    unfold accepts
    rw [alike.number]

theorem Node.verdict_eq_of_alike (node : Node) (key : Option String)
    (alike : source.Alike source') :
    node.verdict options source' key = node.verdict options source key := by
  unfold verdict
  cases node.effectiveKey options.keyPolicy key with
  | none => rfl
  | some name =>
    rw [Option.bind_some, Option.bind_some]
    generalize source name = known, source' name = known', alike name = related
    cases related with
    | none => rfl
    | some alike =>
      dsimp only
      rw [Criterion.accepts_eq_of_alike options.caseMode alike]

namespace Tree

/-- Evidence with alike values leads the same way down. -/
theorem resolve_eq_of_alike (t : Tree) (options : Options) (alike : source.Alike source') :
    t.resolve options source' = t.resolve options source := by
  have simulates : t.Simulates t options options source source' id fun _ key key' => key = key' :=
    { children := fun i => (List.map_id _).symm
      profile := fun i => rfl
      verdict := fun i key key' same c _ => by
        subst same
        exact (t.node c).verdict_eq_of_alike key alike
      next := fun i key key' same c _ => congrArg (t.node c).key.or same }
  unfold resolve
  rw [simulates.descent_eq rfl rfl]
  unfold Descent.rename
  rw [List.map_id]

/-- A number and its text are accepted by the same nodes, each zero, an infinity and NaN too, so
numbers may be written out under any keys of the evidence. -/
theorem resolve_spelt :
    (∀ (x : Binary64) (node : Node) (mode : CaseMode),
        node.criterion.accepts mode (.text x.text) = node.criterion.accepts mode (.number x)) ∧
      ∀ (t : Tree) (options : Options) (source : Evidence.Source) (keys : String → Bool),
        t.resolve options (source.spelt keys) = t.resolve options source :=
  ⟨fun x _ mode => Criterion.accepts_eq_of_alike mode (Evidence.Value.alike_text (.number x)),
    fun t options source keys => t.resolve_eq_of_alike options (source.alike_spelt keys)⟩

end Tree

end EvidenceTree
