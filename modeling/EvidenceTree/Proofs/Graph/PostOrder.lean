import EvidenceTree.Proofs.Graph.Heights

/-!
# Heights without a recursion

Heights can be found with an agenda in place of a recursion. A node stands on it twice: where it
comes first it is opened, that is put back beneath those of its children that have no height yet,
and where it comes again it is measured by the heights of its children. A node that several parents
put on the agenda is passed over once it has a height.

In an acyclic graph the agenda runs empty, and a node that comes again finds all of its children
measured.

* `Graph.Survey.next?`: one step of a measurement with an agenda.
* `Graph.settles_new`: a node that is opened is measured in the end, and the rest of the agenda is
  left as it was.
* `Graph.exists_runs_survey`: the agenda runs empty, and the start has its height then.
-/

namespace EvidenceTree.Graph

variable {n : Nat} {g : Graph n} {acyclic : g.Acyclic} {i c : Fin n} {height : Nat}
  {known known' : Heights n} {children : List (Fin n)}

/-- A node has one height. -/
theorem IsHeight.unique {height' : Nat} (isHeight : g.IsHeight i height)
    (isHeight' : g.IsHeight i height') : height = height' := by
  obtain ⟨below, leads, rfl⟩ := isHeight.reached
  obtain ⟨below', leads', rfl⟩ := isHeight'.reached
  exact Nat.le_antisymm (isHeight'.bound below leads) (isHeight.bound below' leads')

/-! ## Steps -/

/-- A node on an agenda, and whether it has been opened. -/
structure Task (n : Nat) where
  node : Fin n
  opened : Bool

/-- How far a measurement is: the heights that are known, and the agenda. -/
structure Survey (n : Nat) where
  known : Heights n
  agenda : List (Task n)

/-- The greatest height that is known of some nodes, zero if none is. -/
def highest (known : Heights n) (nodes : List (Fin n)) : Nat :=
  (nodes.filterMap known.get).max?.getD 0

/-- The nodes that have no height yet, to be opened, the last of them first. -/
def openings (known : Heights n) (nodes : List (Fin n)) : List (Task n) :=
  (nodes.filter fun c => (known.get c).isNone).reverse.map (⟨·, false⟩)

namespace Survey

/-- A measurement of one node, before its first step. -/
def start (i : Fin n) : Survey n := ⟨Vector.replicate n none, [⟨i, false⟩]⟩

/-- One step of a measurement. It ends where nothing is left on the agenda. -/
def next? (g : Graph n) (survey : Survey n) : Option (Survey n) :=
  match survey.agenda with
  | [] => none
  | ⟨i, opened⟩ :: later =>
    if (survey.known.get i).isSome then some ⟨survey.known, later⟩
    else if opened then
      some ⟨survey.known.set i (some (highest survey.known (g i) + 1)) i.2, later⟩
    else some ⟨survey.known, openings survey.known (g i) ++ ⟨i, true⟩ :: later⟩

end Survey

/-- One measurement comes out of another by steps. -/
abbrev Runs (g : Graph n) (survey survey' : Survey n) : Prop :=
  Relation.ReflTransGen (fun s s' => s.next? g = some s') survey survey'

variable {opened : Bool} {later : List (Task n)}

theorem next?_of_known (isKnown : (known.get i).isSome) :
    Survey.next? g ⟨known, ⟨i, opened⟩ :: later⟩ = some ⟨known, later⟩ :=
  if_pos isKnown

theorem next?_of_opened (unknown : ¬ (known.get i).isSome) :
    Survey.next? g ⟨known, ⟨i, true⟩ :: later⟩ =
      some ⟨known.set i (some (highest known (g i) + 1)) i.2, later⟩ :=
  (if_neg unknown).trans (if_pos rfl)

theorem next?_of_new (unknown : ¬ (known.get i).isSome) :
    Survey.next? g ⟨known, ⟨i, false⟩ :: later⟩ =
      some ⟨known, openings known (g i) ++ ⟨i, true⟩ :: later⟩ :=
  (if_neg unknown).trans (if_neg nofun)

/-! ## Measuring one node -/

theorem isSome_get_set : ((known.set i (some height) i.2).get c).isSome ↔
    c = i ∨ (known.get c).isSome := by
  change (known.set i (some height))[c].isSome ↔ c = i ∨ known[c].isSome
  rw [Fin.getElem_fin, Vector.getElem_set, Fin.ext_iff]
  by_cases same : i.1 = c.1
  · simp [same]
  · simp [same, Ne.symm same]

/-- The greatest height of some nodes is that of one of them, unless it is zero. -/
theorem highest_attained (truthful : g.Truthful known) :
    highest known children = 0 ∨ ∃ c ∈ children, g.IsHeight c (highest known children) := by
  unfold highest
  cases found : (children.filterMap known.get).max? with
  | none => exact .inl rfl
  | some height =>
    have isOne := (List.max?_eq_some_iff.1 found).1
    obtain ⟨c, isChild, isKnown⟩ := List.mem_filterMap.1 isOne
    exact .inr ⟨c, isChild, truthful c height isKnown⟩

/-- No node has a greater height than the greatest of some nodes that all have one. -/
theorem le_highest (truthful : g.Truthful known) (isChild : c ∈ children)
    (isKnown : (known.get c).isSome) : ∃ h ≤ highest known children, g.IsHeight c h := by
  obtain ⟨h, isKnown⟩ := Option.isSome_iff_exists.1 isKnown
  refine ⟨h, ?_, truthful c h isKnown⟩
  have isOne : h ∈ children.filterMap known.get := List.mem_filterMap.2 ⟨c, isChild, isKnown⟩
  obtain ⟨greatest, found⟩ := List.isSome_max?_of_mem isOne |> Option.isSome_iff_exists.1
  unfold highest
  rw [found]
  exact (List.max?_eq_some_iff.1 found).2 h isOne

/-- A node whose children all have their heights is one higher than the highest of them. -/
theorem isHeight_highest (truthful : g.Truthful known)
    (measured : ∀ c ∈ g i, (known.get c).isSome) :
    g.IsHeight i (highest known (g i) + 1) :=
  .of_children (fun c isChild => le_highest truthful isChild (measured c isChild))
    (highest_attained truthful)

/-! ## Runs -/

/-- What some steps of a measurement add: more heights, all of them true. -/
structure Extends (g : Graph n) (known known' : Heights n) : Prop where
  truthful : g.Truthful known'
  kept : ∀ c, (known.get c).isSome → (known'.get c).isSome

theorem Extends.trans {known'' : Heights n} (first : g.Extends known known')
    (rest : g.Extends known' known'') : g.Extends known known'' :=
  ⟨rest.truthful, fun c isKnown => rest.kept c (first.kept c isKnown)⟩

/-- The tasks that come first on an agenda are done with, and each of their nodes has its height
then. -/
def Settles (g : Graph n) (known : Heights n) (tasks : List (Task n)) : Prop :=
  ∀ later, ∃ known', g.Runs ⟨known, tasks ++ later⟩ ⟨known', later⟩ ∧ g.Extends known known' ∧
    ∀ task ∈ tasks, (known'.get task.node).isSome

/-- Tasks that can each be settled, whatever is known, are settled one after the other. -/
theorem settles_of_forall {tasks : List (Task n)}
    (each : ∀ task ∈ tasks, ∀ known, g.Truthful known → g.Settles known [task])
    (truthful : g.Truthful known) : g.Settles known tasks := by
  induction tasks generalizing known with
  | nil => exact fun later => ⟨known, .refl, ⟨truthful, fun _ => id⟩, nofun⟩
  | cons task tasks ih =>
    intro later
    obtain ⟨known₁, runs₁, extends₁, settled₁⟩ :=
      each task List.mem_cons_self known truthful (tasks ++ later)
    obtain ⟨known₂, runs₂, extends₂, settled₂⟩ :=
      ih (fun other isLater => each other (List.mem_cons_of_mem _ isLater)) extends₁.truthful later
    refine ⟨known₂, runs₁.trans runs₂, extends₁.trans extends₂, ?_⟩
    intro other isTask
    rcases List.mem_cons.1 isTask with rfl | isLater
    · exact extends₂.kept _ (settled₁ other (List.mem_singleton_self other))
    · exact settled₂ other isLater

/-- A node that has its height is passed over. -/
theorem settles_known (truthful : g.Truthful known) (isKnown : (known.get i).isSome) :
    g.Settles known [⟨i, opened⟩] :=
  fun _ => ⟨known, .single (next?_of_known isKnown), ⟨truthful, fun _ => id⟩,
    List.forall_mem_singleton.2 isKnown⟩

/-- A node that comes again is settled by the heights of its children. -/
theorem settles_opened (truthful : g.Truthful known)
    (measured : ∀ c ∈ g i, (known.get c).isSome) : g.Settles known [⟨i, true⟩] := by
  by_cases isKnown : (known.get i).isSome
  · exact settles_known truthful isKnown
  · intro later
    refine ⟨_, .single (next?_of_opened isKnown), ⟨?_, ?_⟩, List.forall_mem_singleton.2 ?_⟩
    · exact truthful.set (isHeight_highest truthful measured)
    · exact fun c isKnown => isSome_get_set.2 (.inr isKnown)
    · exact isSome_get_set.2 (.inl rfl)

theorem mem_openings (isChild : c ∈ children) (unknown : ¬ (known.get c).isSome) :
    ⟨c, false⟩ ∈ openings known children := by
  refine List.mem_map_of_mem (List.mem_reverse.2 (List.mem_filter.2 ⟨isChild, ?_⟩))
  simpa using unknown

/-- A node that is opened is measured in the end, and the rest of the agenda is left as it was. -/
theorem settles_new (acyclic : g.Acyclic) (i : Fin n) (truthful : g.Truthful known) :
    g.Settles known [⟨i, false⟩] := by
  induction i using acyclic.induction generalizing known with
  | _ i ih =>
    by_cases isKnown : (known.get i).isSome
    · exact settles_known truthful isKnown
    · intro later
      have settles : g.Settles known (openings known (g i)) := by
        refine settles_of_forall (fun task isTask known truthful => ?_) truthful
        obtain ⟨c, isNew, rfl⟩ := List.mem_map.1 isTask
        exact ih c (List.mem_of_mem_filter (List.mem_reverse.1 isNew)) truthful
      obtain ⟨known₁, runs₁, extends₁, settled₁⟩ := settles (⟨i, true⟩ :: later)
      -- a child that was not opened had its height before
      have measured : ∀ c ∈ g i, (known₁.get c).isSome := by
        intro c isChild
        by_cases isKnown : (known.get c).isSome
        · exact extends₁.kept c isKnown
        · exact settled₁ ⟨c, false⟩ (mem_openings isChild isKnown)
      obtain ⟨known₂, runs₂, extends₂, settled₂⟩ :=
        settles_opened extends₁.truthful measured later
      exact ⟨known₂, .head (next?_of_new isKnown) (runs₁.trans runs₂), extends₁.trans extends₂,
        List.forall_mem_singleton.2 (settled₂ ⟨i, true⟩ (List.mem_singleton_self _))⟩

/-- The agenda of a measurement runs empty, and the start has its height then. -/
theorem exists_runs_survey (g : Graph n) (acyclic : g.Acyclic) (i : Fin n) :
    ∃ known, g.Runs (.start i) ⟨known, []⟩ ∧ known.get i = some (g.height acyclic i) := by
  obtain ⟨known, runs, extended, settled⟩ := settles_new acyclic i truthful_replicate []
  obtain ⟨height, isKnown⟩ :=
    Option.isSome_iff_exists.1 (settled ⟨i, false⟩ (List.mem_singleton_self _))
  have isHeight := extended.truthful i height isKnown
  refine ⟨known, runs, ?_⟩
  rw [isKnown, isHeight.unique (g.isHeight_height acyclic i)]

end EvidenceTree.Graph
