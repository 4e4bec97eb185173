import EvidenceTree.Proofs.Resolution.Relaxation

/-!
# What a resolution looks up

A resolution asks the evidence for few of its values: on each node of its path, those that the
children are asked under up to the one that is followed, and on the last node those of all its
children. Which keys these are is found out along the path itself, as the keys of the nodes above
decide what a child without a key asks under. Nothing else that the evidence holds has a say.

* `Tree.LooksUp`: the keys that are looked up along a path.
* `Tree.Policy.of_agree`: a resolution stays due for evidence that agrees on these keys.
* `Tree.resolve_eq_of_agree`: evidence that agrees on these keys is resolved the same way.
-/

namespace EvidenceTree.Tree

/-! ## Keys that are looked up -/

section

variable (t : Tree)

/-- The children of a node that are looked at: up to the first place of the next node of the path,
and all of them where the path ends. -/
inductive Examines (i : Fin t.size) : Option (Fin t.size) → Fin t.size → Prop
  | onWay {before after : List (Fin t.size)} {next child : Fin t.size} :
      t.graph i = before ++ next :: after → next ∉ before → child ∈ before ++ [next] →
      Examines i (some next) child
  | atEnd {child : Fin t.size} : child ∈ t.graph i → Examines i none child

/-- A key that is looked up along a path: one of the children that are looked at asks under it. -/
def LooksUp (policy : KeyPolicy) (path : List (Fin t.size)) (key : String) : Prop :=
  ∃ above i below child, path = above ++ i :: below ∧ t.Examines i below.head? child ∧
    t.AsksUnder policy (above ++ [i]) child key

/-- Two sources agree on what a child of the last node of a path asks for. -/
def AgreeOn (policy : KeyPolicy) (source source' : Evidence.Source) (path : List (Fin t.size))
    (child : Fin t.size) : Prop :=
  ∀ key, t.AsksUnder policy path child key → source' key = source key

end

variable {t : Tree} {options : Options} {source source' : Evidence.Source}
  {path : List (Fin t.size)} {i child : Fin t.size}

/-! ## Children on whose keys two sources agree -/

theorem AgreeOn.hears_iff {value : Evidence.Value}
    (agree : t.AgreeOn options.keyPolicy source source' path child) :
    t.Hears options source' path child value ↔ t.Hears options source path child value :=
  exists_congr fun key => and_congr_right fun asks => by rw [agree key asks]

theorem AgreeOn.meets_iff (agree : t.AgreeOn options.keyPolicy source source' path child) :
    t.Meets options source' path child ↔ t.Meets options source path child :=
  exists_congr fun _ => and_congr_left' agree.hears_iff

theorem AgreeOn.rejects_iff (agree : t.AgreeOn options.keyPolicy source source' path child) :
    t.Rejects options source' path child ↔ t.Rejects options source path child :=
  exists_congr fun _ => and_congr_left' agree.hears_iff

theorem AgreeOn.skips_iff (agree : t.AgreeOn options.keyPolicy source source' path child) :
    t.Skips options source' path child ↔ t.Skips options source path child :=
  forall_congr' fun _ => not_congr agree.hears_iff

/-- The first child that is met stays it where the sources agree on it and on those before it. -/
theorem FirstMet.of_agree (first : t.FirstMet options source path i child)
    (agree : ∀ examined, t.Examines i (some child) examined →
      t.AgreeOn options.keyPolicy source source' path examined) :
    t.FirstMet options source' path i child := by
  obtain ⟨before, after, split, met, unmet⟩ := first
  have notBefore : child ∉ before := fun inBefore => unmet child inBefore met
  have agreeAt (examined : Fin t.size) (inFront : examined ∈ before ++ [child]) :
      t.AgreeOn options.keyPolicy source source' path examined :=
    agree examined (.onWay split notBefore inFront)
  refine ⟨before, after, split, (agreeAt child (by simp)).meets_iff.2 met, ?_⟩
  intro earlier inBefore
  rw [(agreeAt earlier (List.mem_append_left _ inBefore)).meets_iff]
  exact unmet earlier inBefore

/-! ## Resolutions -/

/-- A resolution that is due stays due where the sources agree on the keys that are looked up along
its path. -/
theorem Policy.of_agree {r : Resolution} (policy : t.Policy options source path r)
    (agree : ∀ key, t.LooksUp options.keyPolicy path key → source' key = source key) :
    t.Policy options source' path r := by
  have agreeOnWay (above : List (Fin t.size)) (i child : Fin t.size) (below : List (Fin t.size))
      (split : path = above ++ i :: child :: below) (examined : Fin t.size)
      (examines : t.Examines i (some child) examined) :
      t.AgreeOn options.keyPolicy source source' (above ++ [i]) examined :=
    fun key asks => agree key ⟨above, i, child :: below, examined, split, examines, asks⟩
  have agreeAtEnd (i : Fin t.size) (isLast : path.getLast? = some i) (child : Fin t.size)
      (isChild : child ∈ t.graph i) :
      t.AgreeOn options.keyPolicy source source' path child := by
    obtain ⟨above, rfl⟩ := List.getLast?_eq_some_iff.1 isLast
    exact fun key asks => agree key ⟨above, i, [], child, rfl, .atEnd isChild, asks⟩
  exact
    { indices := policy.indices
      start := policy.start
      follows := fun above i child below split =>
        (policy.follows above i child below split).of_agree (agreeOnWay above i child below split)
      ends := fun i isLast child isChild => by
        rw [(agreeAtEnd i isLast child isChild).meets_iff]
        exact policy.ends i isLast child isChild
      profile := policy.profile
      reason_isSome := policy.reason_isSome
      missingEvidence := fun noProfile i isLast => by
        rw [policy.missingEvidence noProfile i isLast]
        exact and_congr_right' (forall₂_congr fun child isChild =>
          (agreeAtEnd i isLast child isChild).skips_iff.symm)
      noMatchingBranch := fun noProfile i isLast => by
        rw [policy.noMatchingBranch noProfile i isLast]
        exact exists_congr fun child => and_congr_right fun isChild =>
          (agreeAtEnd i isLast child isChild).rejects_iff.symm
      noProfileOnPath := policy.noProfileOnPath }

/-- A resolution reads no more of the evidence than the keys that are looked up along its path:
whatever another source holds besides, it is resolved the same way if it agrees on these. -/
theorem resolve_eq_of_agree (t : Tree) (options : Options) {source source' : Evidence.Source}
    (agree : ∀ key, t.LooksUp options.keyPolicy (t.descent options source).path key →
      source' key = source key) :
    t.resolve options source' = t.resolve options source :=
  (policy_resolve.of_agree agree).eq_resolve.symm

/-- Where the first of two branches is followed, the key of the second is not looked up. -/
theorem resolve_eq_of_agree_twoBranches :
    (∀ key, twoBranches.LooksUp .inherit
        (twoBranches.descent {} (.ofAssoc [("width", .number (.finite default))])).path key →
      Evidence.Source.ofAssoc [("family", .text "pear"), ("width", .number (.finite default))] key =
        Evidence.Source.ofAssoc [("width", .number (.finite default))] key) ∧
      twoBranches.resolve {}
          (.ofAssoc [("family", .text "pear"), ("width", .number (.finite default))]) =
        twoBranches.resolve {} (.ofAssoc [("width", .number (.finite default))]) := by
  have path : (twoBranches.descent {} (.ofAssoc [("width", .number (.finite default))])).path =
      [twoBranches.root, ⟨1, by decide⟩] := by cbv
  have children : twoBranches.graph twoBranches.root = [⟨1, by decide⟩, ⟨2, by decide⟩] := by cbv
  have onlyWidth : ∀ key, twoBranches.LooksUp .inherit
      (twoBranches.descent {} (.ofAssoc [("width", .number (.finite default))])).path key →
        key = "width" := by
    intro key looksUp
    rw [path] at looksUp
    obtain ⟨above, i, below, child, split, examines, asks⟩ := looksUp
    cases above with
    | nil =>
      cases split
      cases examines with
      | @onWay before after _ _ declared notBefore inFront =>
        rw [children] at declared
        cases before with
        | nil =>
          cases List.mem_singleton.1 inFront
          cases asks with
          | own carried => cases carried
          | inherited _ _ deepest =>
            have known : IsDeepest twoBranches.keyAt [twoBranches.root] (some "width") :=
              isDeepest_singleton
            exact (Option.some.inj ((known key).2 deepest)).symm
        | cons first before =>
          obtain ⟨rfl, -⟩ := List.cons.inj declared
          exact absurd List.mem_cons_self notBefore
    | cons top above =>
      rcases above with _ | ⟨_, _ | _⟩ <;> cases split
      cases examines with
      | atEnd isChild => cases isChild
  have agree : ∀ key, twoBranches.LooksUp .inherit
      (twoBranches.descent {} (.ofAssoc [("width", .number (.finite default))])).path key →
      Evidence.Source.ofAssoc [("family", .text "pear"), ("width", .number (.finite default))] key =
        Evidence.Source.ofAssoc [("width", .number (.finite default))] key := by
    intro key looksUp
    rw [onlyWidth key looksUp]
    rfl
  exact ⟨agree, resolve_eq_of_agree twoBranches {} agree⟩

end EvidenceTree.Tree
