import EvidenceTree.Proofs.Graph.Cycles
import EvidenceTree.Resolution.Resolve

/-!
# The policy behind a resolution

What a resolution ought to be, said of whole paths and without the walk that finds it: from the root
on, each node of the path is the first child of the one before it that the evidence meets, and no
child of the last node is met. The key that a child asks under is a matter of the path to it, so a
node that two parents share can be met on one path and not on the other.

* `Tree.Policy`: the policy, of a path and a resolution.
* `Tree.Leads`: the same of paths alone, as a run from node to node; `Tree.Leads.unique` says that
  the evidence leads one way only.
* `Tree.describes_descend`: what the walk keeps, proved along its own recursion.
* `Tree.resolve_eq_iff_policy`: resolving gives the resolution of the policy and no other.
-/

namespace EvidenceTree

/-! ## Meeting a criterion -/

/-- Two texts are the same, as far as case is told apart. -/
def CaseMode.Agree (mode : CaseMode) (a b : String) : Prop :=
  match mode with
  | .sensitive => a = b
  | .insensitive => Text.lower a = Text.lower b

/-- A value meets a criterion: it has the text of a literal, or a number within a range. -/
inductive Criterion.Met (mode : CaseMode) (value : Evidence.Value) : Criterion → Prop
  | root : Met mode value .root
  | literal {text : String} : mode.Agree text value.toText → Met mode value (.literal text)
  | range {low high x : Finite64} : value.toNumber? = some (.finite x) →
      low.units ≤ x.units → x.units ≤ high.units → Met mode value (.range low high)

theorem Criterion.accepts_iff_met {mode : CaseMode} {value : Evidence.Value}
    {criterion : Criterion} : criterion.accepts mode value = true ↔ criterion.Met mode value := by
  cases criterion with
  | root => exact ⟨fun _ => .root, fun _ => rfl⟩
  | literal text =>
    have agree : Criterion.matchesText mode value.toText (.literal text) = true ↔
        mode.Agree text value.toText := by
      cases mode <;> simp [matchesText, CaseMode.Agree]
    refine agree.trans ⟨.literal, ?_⟩
    intro met
    rcases met with _ | agreed
    exact agreed
  | range low high =>
    constructor
    · intro accepted
      simp only [accepts] at accepted
      split at accepted
      · rename_i x number
        cases x with
        | finite x =>
          simp only [matchesNumber, Binary64.between, Bool.and_eq_true,
            decide_eq_true_eq] at accepted
          exact .range number accepted.1 accepted.2
        | infinite negative => cases accepted
        | nan => cases accepted
      · cases accepted
    · intro met
      rcases met with _ | _ | ⟨number, above, below⟩
      simp [accepts, number, matchesNumber, Binary64.between, above, below]

/-! ## The deepest node of a path -/

section Deepest

variable {α β : Type} {carries : β → Option α} {path : List β} {a b : α} {i : β}

/-- `a` is what the last node of a path carries that carries anything. -/
def Deepest (carries : β → Option α) (path : List β) (a : α) : Prop :=
  ∃ above i below, path = above ++ i :: below ∧ carries i = some a ∧ ∀ j ∈ below, carries j = none

theorem not_deepest_nil : ¬ Deepest carries [] a := by
  intro deepest
  rcases deepest with ⟨above, i, below, split, -, -⟩
  simp at split

theorem deepest_snoc_iff :
    Deepest carries (path ++ [i]) a ↔
      carries i = some a ∨ carries i = none ∧ Deepest carries path a := by
  constructor
  · intro deepest
    rcases deepest with ⟨above, j, below, split, carried, bare⟩
    rcases below.eq_nil_or_concat with rfl | ⟨front, last, rfl⟩
    · obtain ⟨-, same⟩ := List.append_inj' split rfl
      cases same
      exact .inl carried
    · have split' : path ++ [i] = (above ++ j :: front) ++ [last] := by simpa using split
      obtain ⟨same, lastSame⟩ := List.append_inj' split' rfl
      cases lastSame
      refine .inr ⟨bare i (by simp), above, j, front, same, carried, fun k inFront => ?_⟩
      exact bare k (by simp [inFront])
  · intro deepest
    rcases deepest with carried | ⟨bareHere, above, j, below, split, carried, bare⟩
    · exact ⟨path, i, [], rfl, carried, nofun⟩
    · refine ⟨above, j, below ++ [i], by simp [split], carried, fun k inBelow => ?_⟩
      rcases List.mem_append.1 inBelow with inFront | isLast
      · exact bare k inFront
      · exact List.mem_singleton.1 isLast ▸ bareHere

/-- `o` is what the deepest node carries, or nothing where no node of the path carries anything. -/
def IsDeepest (carries : β → Option α) (path : List β) (o : Option α) : Prop :=
  ∀ a, o = some a ↔ Deepest carries path a

theorem isDeepest_nil : IsDeepest carries [] none :=
  fun _ => ⟨nofun, fun deepest => (not_deepest_nil deepest).elim⟩

/-- One step down, what the new node carries comes before what is known so far. -/
theorem IsDeepest.snoc {o : Option α} (deepest : IsDeepest carries path o) (i : β) :
    IsDeepest carries (path ++ [i]) ((carries i).or o) := by
  intro a
  rw [deepest_snoc_iff, ← deepest a]
  cases carries i <;> simp

theorem isDeepest_singleton : IsDeepest carries [i] (carries i) := by
  have deepest := (isDeepest_nil : IsDeepest carries [] none).snoc i
  rwa [Option.or_none] at deepest

theorem IsDeepest.unique {o o' : Option α} (left : IsDeepest carries path o)
    (right : IsDeepest carries path o') : o = o' :=
  Option.ext fun a => (left a).trans (right a).symm

end Deepest

/-- Each way to stop has a reason of its own. -/
theorem Stop.reason_injective : Function.Injective Stop.reason := by
  intro stop other same
  cases stop with
  | leaf => cases other <;> first | rfl | cases same
  | allSkipped => cases other <;> first | rfl | cases same
  | someRejected => cases other <;> first | rfl | cases same

namespace Tree

/-! ## What the evidence says on a path -/

section Policy

variable (t : Tree) (options : Options) (source : Evidence.Source)

/-- The key of a node that carries one. -/
def keyAt (i : Fin t.size) : Option String := (t.node i).key

/-- The profile of a node that carries one. -/
def profileAt (i : Fin t.size) : Option ProfileId := (t.node i).profile

/-- The key that a child of the last node of a path asks under: its own, or else, where keys are
inherited, that of the nearest node of the path with one. -/
inductive AsksUnder (policy : KeyPolicy) (path : List (Fin t.size)) (child : Fin t.size) :
    String → Prop
  | own {key : String} : t.keyAt child = some key → AsksUnder policy path child key
  | inherited {key : String} : t.keyAt child = none → policy = .inherit →
      Deepest t.keyAt path key → AsksUnder policy path child key

/-- The evidence has a value for a child of the last node of a path. -/
def Hears (path : List (Fin t.size)) (child : Fin t.size) (value : Evidence.Value) : Prop :=
  ∃ key, t.AsksUnder options.keyPolicy path child key ∧ source key = some value

/-- The evidence has a value for the child that its criterion matches. -/
def Meets (path : List (Fin t.size)) (child : Fin t.size) : Prop :=
  ∃ value, t.Hears options source path child value ∧
    (t.node child).criterion.Met options.caseMode value

/-- The evidence has a value for the child that its criterion does not match. -/
def Rejects (path : List (Fin t.size)) (child : Fin t.size) : Prop :=
  ∃ value, t.Hears options source path child value ∧
    ¬ (t.node child).criterion.Met options.caseMode value

/-- The child has no key, or the evidence no value under it. -/
def Skips (path : List (Fin t.size)) (child : Fin t.size) : Prop :=
  ∀ value, ¬ t.Hears options source path child value

/-- The first child in order of the last node `i` of a path that the evidence meets. -/
def FirstMet (path : List (Fin t.size)) (i child : Fin t.size) : Prop :=
  ∃ before after, t.graph i = before ++ child :: after ∧ t.Meets options source path child ∧
    ∀ earlier ∈ before, ¬ t.Meets options source path earlier

/-- The resolution that is due: a path from the root along the first children that the evidence
meets, the deepest profile on it, and the reason where there is none. -/
structure Policy (path : List (Fin t.size)) (r : Resolution) : Prop where
  indices : r.path = path.map Fin.val
  start : path.head? = some t.root
  follows : ∀ above i child below, path = above ++ i :: child :: below →
    t.FirstMet options source (above ++ [i]) i child
  ends : ∀ i, path.getLast? = some i → ∀ child ∈ t.graph i, ¬ t.Meets options source path child
  profile : IsDeepest t.profileAt path r.profile
  reason_isSome : r.reason.isSome = true ↔ r.profile = none
  missingEvidence : r.profile = none → ∀ i, path.getLast? = some i →
    (r.reason = some .missingEvidence ↔
      t.graph i ≠ [] ∧ ∀ child ∈ t.graph i, t.Skips options source path child)
  noMatchingBranch : r.profile = none → ∀ i, path.getLast? = some i →
    (r.reason = some .noMatchingBranch ↔ ∃ child ∈ t.graph i, t.Rejects options source path child)
  noProfileOnPath : r.profile = none → ∀ i, path.getLast? = some i →
    (r.reason = some .noProfileOnPath ↔ t.graph i = [])

/-- The evidence leads down a path, given the nodes above its first one. -/
inductive Leads : List (Fin t.size) → List (Fin t.size) → Prop
  | stop {above : List (Fin t.size)} {i : Fin t.size} :
      (∀ child ∈ t.graph i, ¬ t.Meets options source (above ++ [i]) child) → Leads above [i]
  | step {above below : List (Fin t.size)} {i child : Fin t.size} :
      t.FirstMet options source (above ++ [i]) i child →
      Leads (above ++ [i]) (child :: below) → Leads above (i :: child :: below)

end Policy

variable {t : Tree} {options : Options} {source : Evidence.Source}
  {path above below : List (Fin t.size)} {i child : Fin t.size} {key : Option String}

/-! ## The verdict on a child -/

theorem effectiveKey_eq_some_iff {policy : KeyPolicy} {name : String}
    (known : IsDeepest t.keyAt path key) :
    (t.node child).effectiveKey policy key = some name ↔ t.AsksUnder policy path child name := by
  unfold Node.effectiveKey
  change (t.keyAt child).or _ = some name ↔ _
  cases carried : t.keyAt child with
  | some own =>
    constructor
    · intro run
      cases run
      exact .own carried
    · intro asks
      rcases asks with carried' | ⟨bare, -, -⟩
      · exact carried.symm.trans carried'
      · cases carried.symm.trans bare
  | none =>
    cases policy with
    | inherit =>
      refine (known name).trans ⟨.inherited carried rfl, ?_⟩
      intro asks
      rcases asks with carried' | ⟨-, -, deepest⟩
      · cases carried.symm.trans carried'
      · exact deepest
    | explicit =>
      refine ⟨nofun, ?_⟩
      intro asks
      rcases asks with carried' | ⟨-, same, -⟩
      · cases carried.symm.trans carried'
      · cases same

theorem hears_iff {value : Evidence.Value} (known : IsDeepest t.keyAt path key) :
    ((t.node child).effectiveKey options.keyPolicy key).bind source = some value ↔
      t.Hears options source path child value := by
  rw [Option.bind_eq_some_iff]
  exact exists_congr fun name => and_congr_left fun _ => effectiveKey_eq_some_iff known

theorem verdict_eq_matched_iff (known : IsDeepest t.keyAt path key) :
    t.verdict options source key child = .matched ↔ t.Meets options source path child := by
  simp only [Tree.verdict, Node.verdict, Meets, ← hears_iff known, ← Criterion.accepts_iff_met]
  cases ((t.node child).effectiveKey options.keyPolicy key).bind source with
  | none => simp
  | some value => simp

theorem verdict_eq_rejected_iff (known : IsDeepest t.keyAt path key) :
    t.verdict options source key child = .rejected ↔ t.Rejects options source path child := by
  simp only [Tree.verdict, Node.verdict, Rejects, ← hears_iff known, ← Criterion.accepts_iff_met]
  cases ((t.node child).effectiveKey options.keyPolicy key).bind source with
  | none => simp
  | some value => simp

theorem verdict_eq_skipped_iff (known : IsDeepest t.keyAt path key) :
    t.verdict options source key child = .skipped ↔ t.Skips options source path child := by
  simp only [Tree.verdict, Node.verdict, Skips, ← hears_iff known]
  cases ((t.node child).effectiveKey options.keyPolicy key).bind source with
  | none => simp
  | some value => simp; split <;> simp

theorem chosen?_eq_some_iff (known : IsDeepest t.keyAt path key) :
    t.chosen? options source key i = some child ↔ t.FirstMet options source path i child := by
  unfold chosen? FirstMet
  rw [List.find?_eq_some_iff_append]
  simp only [verdict_eq_matched_iff known, decide_eq_true_eq, Bool.not_eq_true',
    decide_eq_false_iff_not]
  constructor
  · intro found
    rcases found with ⟨met, before, after, split, unmet⟩
    exact ⟨before, after, split, met, unmet⟩
  · intro first
    rcases first with ⟨before, after, split, met, unmet⟩
    exact ⟨met, before, after, split, unmet⟩

theorem chosen?_eq_none_iff (known : IsDeepest t.keyAt path key) :
    t.chosen? options source key i = none ↔
      ∀ child ∈ t.graph i, ¬ t.Meets options source path child := by
  unfold chosen?
  rw [List.find?_eq_none]
  simp only [verdict_eq_matched_iff known, decide_eq_true_eq]

/-! ## The walk down -/

/-- What a reason to stop says of the children of the last node `i` of a path. -/
def StopsFor (t : Tree) (options : Options) (source : Evidence.Source) (path : List (Fin t.size))
    (i : Fin t.size) : Stop → Prop
  | .leaf => t.graph i = []
  | .allSkipped => t.graph i ≠ [] ∧ ∀ child ∈ t.graph i, t.Skips options source path child
  | .someRejected => ∃ child ∈ t.graph i, t.Rejects options source path child

theorem stopsFor_ofVerdicts (known : IsDeepest t.keyAt path key)
    (unmet : ∀ child ∈ t.graph i, ¬ t.Meets options source path child) :
    t.StopsFor options source path i
      (Stop.ofVerdicts ((t.graph i).map (t.verdict options source key))) := by
  unfold Stop.ofVerdicts
  split
  · rename_i rejected
    obtain ⟨child, isChild, verdict⟩ := List.mem_map.1 (List.contains_iff_mem.1 rejected)
    exact ⟨child, isChild, (verdict_eq_rejected_iff known).1 verdict⟩
  · rename_i noneRejected
    split
    · rename_i noChild
      exact List.map_eq_nil_iff.1 (List.isEmpty_iff.1 noChild)
    · rename_i someChild
      refine ⟨fun noChild => someChild (by simp [noChild]), fun child isChild => ?_⟩
      cases verdict : t.verdict options source key child with
      | matched => exact absurd ((verdict_eq_matched_iff known).1 verdict) (unmet child isChild)
      | rejected =>
        exact absurd (List.contains_iff_mem.2 (List.mem_map.2 ⟨child, isChild, verdict⟩))
          noneRejected
      | skipped => exact (verdict_eq_skipped_iff known).1 verdict

/-- There is one reason to stop, whichever is given. -/
theorem StopsFor.unique {stop other : Stop} (stops : t.StopsFor options source path i stop)
    (stops' : t.StopsFor options source path i other) : stop = other := by
  have notBoth : ∀ {child}, t.Rejects options source path child →
      ¬ t.Skips options source path child :=
    fun ⟨value, heard, _⟩ skips => skips value heard
  cases stop with
  | leaf =>
    cases other with
    | leaf => rfl
    | allSkipped => exact absurd stops stops'.1
    | someRejected =>
      obtain ⟨child, isChild, -⟩ := stops'
      exact absurd stops (List.ne_nil_of_mem isChild)
  | allSkipped =>
    cases other with
    | leaf => exact absurd stops' stops.1
    | allSkipped => rfl
    | someRejected =>
      obtain ⟨child, isChild, rejects⟩ := stops'
      exact absurd (stops.2 child isChild) (notBoth rejects)
  | someRejected =>
    obtain ⟨child, isChild, rejects⟩ := stops
    cases other with
    | leaf => exact absurd stops' (List.ne_nil_of_mem isChild)
    | allSkipped => exact absurd (stops'.2 child isChild) (notBoth rejects)
    | someRejected => rfl

theorem reason_eq_iff {stop : Stop} (stops : t.StopsFor options source path i stop) (other : Stop) :
    some stop.reason = some other.reason ↔ t.StopsFor options source path i other := by
  constructor
  · intro same
    have sameStop : stop = other := Stop.reason_injective (Option.some.inj same)
    rw [← sameStop]
    exact stops
  · intro stops'
    rw [stops.unique stops']

/-- What a walk down has found, given the nodes above the one it starts at. -/
structure Describes (t : Tree) (options : Options) (source : Evidence.Source)
    (above : List (Fin t.size)) (found : Descent t.size) : Prop where
  leads : t.Leads options source above found.path
  profile : IsDeepest t.profileAt (above ++ found.path) found.profile
  stop : ∀ i, found.path.getLast? = some i →
    t.StopsFor options source (above ++ found.path) i found.stop

theorem head?_descend {profile : Option ProfileId} :
    (descend t options source i key profile).path.head? = some i := by
  unfold descend
  split <;> rfl

theorem Describes.under {found : Descent t.size}
    (first : t.FirstMet options source (above ++ [i]) i child)
    (rest : t.Describes options source (above ++ [i]) found)
    (starts : found.path.head? = some child) :
    t.Describes options source above (found.under i) := by
  obtain ⟨below, path_eq⟩ := List.head?_eq_some_iff.1 starts
  have regroup : above ++ (found.under i).path = (above ++ [i]) ++ found.path := by
    simp [Descent.under]
  have leads := rest.leads
  rw [path_eq] at leads
  refine ⟨?_, ?_, fun last isLast => ?_⟩
  · rw [Descent.under, path_eq]
    exact .step first leads
  · rw [regroup]
    exact rest.profile
  · rw [regroup]
    refine rest.stop last ?_
    rwa [Descent.under, path_eq, List.getLast?_cons_cons, ← path_eq] at isLast

/-- The walk keeps the deepest key and the deepest profile of the nodes down to where it is. -/
theorem describes_descend {profile : Option ProfileId}
    (keyKnown : IsDeepest t.keyAt (above ++ [i]) key)
    (profileKnown : IsDeepest t.profileAt (above ++ [i]) profile) :
    t.Describes options source above (descend t options source i key profile) := by
  -- what is known of the path so far grows by one node with each call
  fun_induction descend t options source i key profile generalizing above with
  | case1 i key profile child chosen ih =>
    have first := (chosen?_eq_some_iff keyKnown).1 chosen
    exact .under first (ih (keyKnown.snoc child) (profileKnown.snoc child)) head?_descend
  | case2 i key profile chosen =>
    have unmet := (chosen?_eq_none_iff keyKnown).1 chosen
    refine ⟨.stop unmet, profileKnown, fun last isLast => ?_⟩
    cases isLast
    exact stopsFor_ofVerdicts keyKnown unmet

/-! ## Runs -/

theorem FirstMet.unique {other : Fin t.size} (first : t.FirstMet options source path i child)
    (first' : t.FirstMet options source path i other) : child = other := by
  obtain ⟨before, after, split, met, unmet⟩ := first
  obtain ⟨before', after', split', met', unmet'⟩ := first'
  rcases List.append_eq_append_iff.1 (split.symm.trans split') with
    ⟨between, rfl, rest⟩ | ⟨between, rfl, rest⟩
  · cases between with
    | nil => exact (List.cons.inj rest).1
    | cons c between =>
      cases rest
      exact absurd met (unmet' child (by simp))
  · cases between with
    | nil => exact (List.cons.inj rest).1.symm
    | cons c between =>
      cases rest
      exact absurd met' (unmet other (by simp))

/-- The evidence leads one way only. -/
theorem Leads.unique {path' : List (Fin t.size)} (leads : t.Leads options source above path)
    (leads' : t.Leads options source above path') (sameHead : path.head? = path'.head?) :
    path = path' := by
  -- the children that are met depend on the nodes above alone, which both runs share
  induction leads generalizing path' with
  | stop unmet =>
    cases leads' with
    | stop => simpa using sameHead
    | step first =>
      obtain ⟨before, after, split, met, -⟩ := first
      cases sameHead
      exact absurd met (unmet _ (by simp [split]))
  | step first rest ih =>
    cases leads' with
    | stop unmet =>
      obtain ⟨before, after, split, met, -⟩ := first
      cases sameHead
      exact absurd met (unmet _ (by simp [split]))
    | step first' rest' =>
      cases sameHead
      cases first.unique first'
      rw [ih rest' rfl]

theorem Leads.path_ne_nil (leads : t.Leads options source above path) : path ≠ [] := by
  cases leads <;> nofun

/-- A run is what the policy says of a path, node by node. -/
theorem leads_iff :
    t.Leads options source above path ↔ path ≠ [] ∧
      (∀ front i child below, path = front ++ i :: child :: below →
        t.FirstMet options source (above ++ front ++ [i]) i child) ∧
      ∀ i, path.getLast? = some i →
        ∀ child ∈ t.graph i, ¬ t.Meets options source (above ++ path) child := by
  constructor
  · intro leads
    induction leads with
    | stop unmet =>
      refine ⟨nofun, fun front i child below split => ?_, fun last isLast => ?_⟩
      · rcases front with _ | ⟨_, _ | _⟩ <;> simp at split
      · cases isLast
        exact unmet
    | @step above below i child first rest ih =>
      obtain ⟨-, follows, ends⟩ := ih
      refine ⟨nofun, fun front j next below' split => ?_, fun last isLast => ?_⟩
      · cases front with
        | nil =>
          cases split
          simpa using first
        | cons top front =>
          obtain ⟨rfl, split'⟩ := List.cons.inj split
          simpa using follows front j next below' split'
      · rw [List.getLast?_cons_cons] at isLast
        simpa using ends last isLast
  · intro runs
    rcases runs with ⟨nonempty, follows, ends⟩
    induction path generalizing above with
    | nil => exact absurd rfl nonempty
    | cons i below ih =>
      cases below with
      | nil => exact .stop (ends i rfl)
      | cons child below =>
        refine .step (by simpa using follows [] i child below rfl) (ih nofun ?_ ?_)
        · intro front j next below' split
          simpa using follows (i :: front) j next below' (by rw [split]; rfl)
        · intro last isLast
          simpa using ends last (by rwa [List.getLast?_cons_cons])

/-- Each node of a run is a child of the one before it. -/
theorem Leads.isChain (leads : t.Leads options source above path) :
    path.IsChain (Function.swap t.graph.Child) := by
  induction leads with
  | stop => exact .singleton _
  | step first rest ih =>
    obtain ⟨before, after, split, -, -⟩ := first
    exact .cons_cons (by simp [Function.swap, Graph.Child, split]) ih

/-- No node of a run comes twice. -/
theorem Leads.nodup (leads : t.Leads options source above path) : path.Nodup := by
  have chain : path.IsChain (Relation.TransGen (Function.swap t.graph.Child)) :=
    leads.isChain.imp fun _ _ => Relation.TransGen.single
  refine chain.pairwise.imp fun {a b} below same => ?_
  subst same
  exact t.acyclic.not_descendant a (Relation.transGen_swap.1 below)

/-! ## The resolution -/

theorem head?_descent : (t.descent options source).path.head? = some t.root :=
  head?_descend

theorem describes_descent (t : Tree) (options : Options) (source : Evidence.Source) :
    t.Describes options source [] (t.descent options source) :=
  describes_descend isDeepest_singleton isDeepest_singleton

/-- The resolution that is given is due. -/
theorem policy_resolve :
    t.Policy options source (t.descent options source).path (t.resolve options source) := by
  have described := t.describes_descent options source
  obtain ⟨-, follows, ends⟩ := leads_iff.1 described.leads
  have given : ∀ stop : Stop, (t.resolve options source).profile = none →
      ∀ i, (t.descent options source).path.getLast? = some i →
        ((t.resolve options source).reason = some stop.reason ↔
          t.StopsFor options source (t.descent options source).path i stop) := by
    intro stop noProfile i isLast
    have noneFound : (t.descent options source).profile = none := noProfile
    have reason_eq : (t.resolve options source).reason =
        some (t.descent options source).stop.reason := by
      simp [resolve, Descent.resolution, noneFound]
    rw [reason_eq]
    exact reason_eq_iff (described.stop i isLast) stop
  refine ⟨rfl, head?_descent, by simpa using follows, by simpa using ends, described.profile, ?_,
    given .allSkipped, given .someRejected, given .leaf⟩
  unfold resolve Descent.resolution
  cases (t.descent options source).profile <;> simp

theorem Policy.leads {r : Resolution} (policy : t.Policy options source path r) :
    t.Leads options source [] path := by
  refine leads_iff.2 ⟨fun empty => ?_, by simpa using policy.follows, by simpa using policy.ends⟩
  cases empty ▸ policy.start

/-- The resolution that is due is given. -/
theorem Policy.eq_resolve {r : Resolution} (policy : t.Policy options source path r) :
    r = t.resolve options source := by
  have described := t.describes_descent options source
  have samePath : path = (t.descent options source).path :=
    policy.leads.unique described.leads (policy.start.trans head?_descent.symm)
  subst samePath
  have sameProfile : r.profile = (t.descent options source).profile :=
    policy.profile.unique described.profile
  have sameReason : r.reason = (t.resolve options source).reason := by
    cases found : (t.descent options source).profile with
    | some id =>
      have notSome := policy.reason_isSome
      simp [sameProfile, found] at notSome
      simp [resolve, Descent.resolution, found, notSome]
    | none =>
      have noProfile := sameProfile.trans found
      have isLast := List.getLast?_eq_some_getLast described.leads.path_ne_nil
      have stops := described.stop _ isLast
      simp only [resolve, Descent.resolution, found]
      cases stop : (t.descent options source).stop with
      | leaf =>
        rw [stop] at stops
        exact (policy.noProfileOnPath noProfile _ isLast).2 stops
      | allSkipped =>
        rw [stop] at stops
        exact (policy.missingEvidence noProfile _ isLast).2 stops
      | someRejected =>
        rw [stop] at stops
        exact (policy.noMatchingBranch noProfile _ isLast).2 stops
  exact Resolution.ext sameProfile policy.indices sameReason

/-- Resolving gives the resolution of the policy and no other, along a path on which no node comes
twice. -/
theorem resolve_eq_iff_policy (t : Tree) (options : Options) (source : Evidence.Source)
    (r : Resolution) :
    (t.resolve options source = r ↔ ∃ path, t.Policy options source path r) ∧
      (t.resolve options source).path.Nodup := by
  refine ⟨⟨?_, ?_⟩, ?_⟩
  · intro given
    subst given
    exact ⟨_, policy_resolve⟩
  · intro due
    rcases due with ⟨path, policy⟩
    exact policy.eq_resolve.symm
  · have distinct := (t.describes_descent options source).leads.nodup
    exact List.pairwise_map.2 (distinct.imp fun differ same => differ (Fin.ext same))

end Tree

end EvidenceTree
