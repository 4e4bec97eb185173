import EvidenceTree.Proofs.Resolution.Policy

/-!
# Relaxed evaluations

More evidence, keys that are inherited and case that is not told apart all let the evidence meet
more children. What a resolution answers may change in any way by it, but the way that it goes does
not: it goes on at least as far, or turns off to an earlier sibling.

* `Tree.Meets.relaxed`: a child that is met stays met.
* `Tree.Leads.relaxed`: two runs from one node, side by side.
* `Tree.resolve_relaxed`: the law for resolutions.
-/

namespace EvidenceTree

/-- The evidence has the values of another source wherever that has one. -/
def Evidence.Source.Extends (source' source : Evidence.Source) : Prop :=
  ∀ key value, source key = some value → source' key = some value

/-- The options differ at most in case that is told apart no longer and in keys that are
inherited now. -/
structure Options.Relaxes (options' options : Options) : Prop where
  caseSensitive : options'.caseSensitive = true → options.caseSensitive = true
  keyPolicy : options.keyPolicy = .inherit → options'.keyPolicy = .inherit

theorem Criterion.Met.relaxed {options options' : Options} {value : Evidence.Value}
    {criterion : Criterion} (relaxes : options'.Relaxes options)
    (met : criterion.Met options.caseMode value) : criterion.Met options'.caseMode value := by
  cases met with
  | root => exact .root
  | range number above below => exact .range number above below
  | literal agree =>
    refine .literal ?_
    unfold Options.caseMode at agree ⊢
    by_cases sensitive : options'.caseSensitive = true
    · rwa [if_pos (relaxes.caseSensitive sensitive), if_pos sensitive] at *
    · rw [if_neg sensitive]
      split at agree
      · exact congrArg Text.lower agree
      · exact agree

/-- Where an element stands for the first time, one that stands later for the first time has its
first place further on. -/
theorem idxOf_lt_of_split {α : Type} [DecidableEq α] {before after : List α} {a b : α}
    (notBefore : b ∉ before) (differ : b ≠ a) :
    (before ++ a :: after).idxOf a < (before ++ a :: after).idxOf b := by
  have later : (before ++ a :: after).idxOf b = before.length + ((after.idxOf b) + 1) := by
    rw [List.idxOf_append_of_notMem notBefore, List.idxOf_cons_ne _ (Ne.symm differ)]
  rw [later, List.idxOf_append]
  split
  · rename_i inBefore
    have := List.idxOf_lt_length_of_mem inBefore
    omega
  · rw [List.idxOf_cons_self]
    omega

namespace Tree

variable {t : Tree} {options options' : Options} {source source' : Evidence.Source}
  {path above : List (Fin t.size)} {i child : Fin t.size}

/-! ## Children that stay met -/

theorem AsksUnder.relaxed {key : String} (relaxes : options'.Relaxes options)
    (asks : t.AsksUnder options.keyPolicy path child key) :
    t.AsksUnder options'.keyPolicy path child key := by
  cases asks with
  | own carried => exact .own carried
  | inherited bare policy deepest => exact .inherited bare (relaxes.keyPolicy policy) deepest

theorem Meets.relaxed (relaxes : options'.Relaxes options) (more : source'.Extends source)
    (meets : t.Meets options source path child) : t.Meets options' source' path child := by
  obtain ⟨value, ⟨key, asks, known⟩, met⟩ := meets
  exact ⟨value, ⟨key, asks.relaxed relaxes, more key value known⟩, met.relaxed relaxes⟩

/-! ## Two runs side by side -/

/-- A path leaves another one for a child that its last common node declares earlier. -/
def TurnsEarlier (t : Tree) (path' path : List Nat) : Prop :=
  ∃ (common rest rest' : List Nat) (p : Fin t.size) (c c' : Nat),
    path = common ++ p.1 :: c :: rest ∧ path' = common ++ p.1 :: c' :: rest' ∧
      c ∈ (t.node p).children ∧ (t.node p).children.idxOf c' < (t.node p).children.idxOf c

theorem TurnsEarlier.cons {path' path : List Nat} (turns : t.TurnsEarlier path' path) (i : Nat) :
    t.TurnsEarlier (i :: path') (i :: path) := by
  obtain ⟨common, rest, rest', p, c, c', rfl, rfl, declared⟩ := turns
  exact ⟨i :: common, rest, rest', p, c, c', rfl, rfl, declared⟩

theorem TurnsEarlier.not_prefix {path' path : List Nat} (turns : t.TurnsEarlier path' path) :
    ¬ path' <+: path := by
  intro shorter
  rcases shorter with ⟨others, longer⟩
  obtain ⟨common, rest, rest', p, c, c', rfl, rfl, -, earlier⟩ := turns
  have same : c' = c := by simp at longer; exact longer.1
  exact absurd earlier (same ▸ Nat.lt_irrefl _)

/-- The first child that is met then stands no later than the first that is met now. -/
theorem FirstMet.relaxed {child' : Fin t.size} (relaxes : options'.Relaxes options)
    (more : source'.Extends source) (first : t.FirstMet options source path i child)
    (first' : t.FirstMet options' source' path i child') :
    child' = child ∨ child.1 ∈ (t.node i).children ∧
      (t.node i).children.idxOf child'.1 < (t.node i).children.idxOf child.1 := by
  by_cases same : child' = child
  · exact .inl same
  · obtain ⟨before, after, split, met, -⟩ := first
    obtain ⟨before', after', split', -, unmet'⟩ := first'
    have declared : child.1 ∈ (t.node i).children := by
      rw [← map_val_graph, split]
      simp
    -- the child is still met, so it cannot stand among those that are not
    have notBefore : child.1 ∉ before'.map Fin.val := by
      intro inBefore
      obtain ⟨c, inBefore, c_eq⟩ := List.mem_map.1 inBefore
      exact unmet' c inBefore (Fin.ext c_eq ▸ met.relaxed relaxes more)
    refine .inr ⟨declared, ?_⟩
    rw [← map_val_graph, split', List.map_append, List.map_cons]
    exact idxOf_lt_of_split notBefore fun same' => same (Fin.ext same'.symm)

/-- A run of a relaxed evaluation goes on where the run did, or has turned off earlier. -/
theorem Leads.relaxed {path' : List (Fin t.size)} (relaxes : options'.Relaxes options)
    (more : source'.Extends source) (leads : t.Leads options source above path)
    (leads' : t.Leads options' source' above path') (sameHead : path.head? = path'.head?) :
    path.map Fin.val <+: path'.map Fin.val ∨
      t.TurnsEarlier (path'.map Fin.val) (path.map Fin.val) := by
  induction leads generalizing path' with
  | stop =>
    cases leads' with
    | stop =>
      cases sameHead
      exact .inl (List.prefix_refl _)
    | step =>
      cases sameHead
      exact .inl (List.cons_prefix_cons.2 ⟨rfl, List.nil_prefix⟩)
  | @step above below i child first rest ih =>
    cases leads' with
    | stop unmet' =>
      cases sameHead
      obtain ⟨before, after, split, met, -⟩ := first
      exact absurd (met.relaxed relaxes more) (unmet' child (by simp [split]))
    | @step _ below' _ child' first' rest' =>
      cases sameHead
      rcases first.relaxed relaxes more first' with rfl | declared
      · rcases ih rest' rfl with goesOn | turns
        · exact .inl (List.cons_prefix_cons.2 ⟨rfl, goesOn⟩)
        · exact .inr (turns.cons i)
      · exact .inr ⟨[], below.map Fin.val, below'.map Fin.val, i, child, child', rfl, rfl, declared⟩

/-! ## Resolutions -/

/-- Relaxing an evaluation never moves it to a later sibling: the path goes on at least as far, or
turns off to an earlier sibling where the two first differ; it never becomes shorter. -/
theorem resolve_relaxed (t : Tree) {options options' : Options} {source source' : Evidence.Source}
    (relaxes : options'.Relaxes options) (more : source'.Extends source) :
    ((t.resolve options source).path <+: (t.resolve options' source').path ∨
        t.TurnsEarlier (t.resolve options' source').path (t.resolve options source).path) ∧
      ((t.resolve options' source').path <+: (t.resolve options source).path →
        (t.resolve options' source').path = (t.resolve options source).path) := by
  have leads := (t.describes_descent options source).leads
  have leads' := (t.describes_descent options' source').leads
  have sides := leads.relaxed relaxes more leads' (head?_descent.trans head?_descent.symm)
  refine ⟨sides, fun shorter => ?_⟩
  rcases sides with goesOn | turns
  · exact shorter.eq_of_length_le goesOn.length_le
  · exact absurd shorter turns.not_prefix

/-- A root with a key and two branches, the first of which inherits the key. -/
def twoBranches : Tree where
  version := "1"
  publishDate := "2024-01-01"
  nodes := #[⟨0, .root, some "width", none, [1, 2]⟩, ⟨1, .range default default, none, some 1, []⟩,
    ⟨2, .literal "apple", some "family", some 2, []⟩]
  wellFormed :=
    { rooted := by decide
      index_eq := by decide
      root_iff := by decide
      bounded := by decide
      acyclic := Graph.acyclic_of_ascending (by decide) }

/-- With a width and with keys inherited, a resolution turns off to the first branch. -/
theorem resolve_relaxed_twoBranches :
    Options.Relaxes ⟨false, .inherit⟩ ⟨true, .explicit⟩ ∧
      Evidence.Source.Extends
        (.ofAssoc [("family", .text "apple"), ("width", .number (.finite default))])
        (.ofAssoc [("family", .text "apple")]) ∧
      twoBranches.TurnsEarlier [0, 1] [0, 2] := by
  have relaxes : Options.Relaxes ⟨false, .inherit⟩ ⟨true, .explicit⟩ := ⟨nofun, fun _ => rfl⟩
  have more : Evidence.Source.Extends
      (.ofAssoc [("family", .text "apple"), ("width", .number (.finite default))])
      (.ofAssoc [("family", .text "apple")]) := by
    intro key value known
    simp only [Evidence.Source.ofAssoc, Assoc.find?] at known ⊢
    split at known
    · rename_i named
      rwa [if_pos named]
    · cases known
  refine ⟨relaxes, more, ?_⟩
  have sides := (resolve_relaxed twoBranches relaxes more).1
  have path : (twoBranches.resolve ⟨true, .explicit⟩
      (.ofAssoc [("family", .text "apple")])).path = [0, 2] := by cbv
  have path' : (twoBranches.resolve ⟨false, .inherit⟩
      (.ofAssoc [("family", .text "apple"), ("width", .number (.finite default))])).path =
        [0, 1] := by cbv
  rw [path, path'] at sides
  exact sides.resolve_left (by decide)

end Tree

end EvidenceTree
