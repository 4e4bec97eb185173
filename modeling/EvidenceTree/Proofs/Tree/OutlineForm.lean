import EvidenceTree.Proofs.Tree.OutlineFrames
import EvidenceTree.Proofs.Tree.Queries

/-!
# The form of an outline

What can be relied on in an outline that is read from top to bottom. Above the last level each child
of a node has its place, in the order of the children; at the last level the children are counted.
A node that is referred to has been shown before, and none is shown twice. As long as no way down is
longer than the outline has levels, the nodes come in the order of a walk.

* `Entry.Reads`: a reading, with the nodes that it knows before and after.
* `Entry.at_ofNode`: where an entry within a drawing comes from.
* `Entry.exists_ofNode_of_at`: an entry within a drawing is a drawing of its own.
* `Entry.exists_leadsDown_of_at`: an entry stands no lower than a way down leads.
* `Entry.walk_ofNode`: a walk comes to the nodes of a drawing that leaves no children out.
* `Tree.wellOutlined`: the form of the outline of a tree.
-/

namespace EvidenceTree

namespace Entry

variable {n : Nat} {g : Graph n} {levels level : Nat} {i j c : Fin n} {entry : Entry n}
  {below entries more before after : List (Entry n)} {children later : List (Fin n)}
  {shown known middle done : Vector Bool n}

/-! ## The entries of children -/

section

variable {enter : Fin n → Vector Bool n → Entry n × Vector Bool n}

/-- An entry in the place of a node: its own, or a reference to it. -/
def StandsFor (c : Fin n) (entry : Entry n) : Prop :=
  (∃ below, entry = own c below) ∨ entry = shared c

/-- Each child has its place, in the order of the children. -/
theorem standsFor_ofChildren (top : ∀ c shown, ∃ below, (enter c shown).1 = own c below)
    (children : List (Fin n)) (shown : Vector Bool n) :
    List.Forall₂ StandsFor children (ofChildren enter children shown).1 := by
  induction children, shown using ofChildren_induction with
  | none => exact .nil
  | refer _ ih => exact .cons (.inr rfl) ih
  | own _ ih => exact .cons (.inl (top _ _)) ih

/-- The entry of a child is a reference to it or has been drawn of it. -/
theorem exists_enter_of_mem_ofChildren (isEntry : entry ∈ (ofChildren enter children shown).1) :
    ∃ c ∈ children, entry = shared c ∨ ∃ start, entry = (enter c start).1 := by
  induction children, shown using ofChildren_induction with
  | none => cases isEntry
  | @refer c _ _ _ _ _ ih =>
    rcases List.mem_cons.1 isEntry with rfl | isLater
    · exact ⟨c, List.mem_cons_self, .inl rfl⟩
    · obtain ⟨c', isChild, found⟩ := ih isLater
      exact ⟨c', List.mem_cons_of_mem _ isChild, found⟩
  | @own c _ _ _ _ _ ih =>
    rcases List.mem_cons.1 isEntry with rfl | isLater
    · exact ⟨c, List.mem_cons_self, .inr ⟨_, rfl⟩⟩
    · obtain ⟨c', isChild, found⟩ := ih isLater
      exact ⟨c', List.mem_cons_of_mem _ isChild, found⟩

end

/-! ## Readings -/

mutual

/-- An entry and those below it, in the order of the lines. -/
def inOrder : Entry n → List (Entry n)
  | own i below => own i below :: inOrderBelow below
  | shared i => [shared i]
  | omitted children => [omitted children]

/-- Entries of one level and those below them, in the order of the lines. -/
def inOrderBelow : List (Entry n) → List (Entry n)
  | [] => []
  | entry :: rest => inOrder entry ++ inOrderBelow rest

end

/-- The node whose own entry it is. -/
def own? : Entry n → Option (Fin n)
  | own i _ => some i
  | shared _ => none
  | omitted _ => none

mutual

theorem owned_eq_filterMap : ∀ entry : Entry n, owned entry = (inOrder entry).filterMap own?
  | own i below => by
    rw [owned, inOrder, ownedBelow_eq_filterMap below]
    rfl
  | shared _ => rfl
  | omitted _ => rfl

theorem ownedBelow_eq_filterMap :
    ∀ entries : List (Entry n), ownedBelow entries = (inOrderBelow entries).filterMap own?
  | [] => rfl
  | entry :: rest => by
    rw [ownedBelow, inOrderBelow, List.filterMap_append, owned_eq_filterMap entry,
      ownedBelow_eq_filterMap rest]

end

/-- Entries are read one after the other. At its own entry a node is new, and it is known from then
on; where it is referred to, it is known. -/
inductive Reads : Vector Bool n → List (Entry n) → Vector Bool n → Prop
  | done (known : Vector Bool n) : Reads known [] known
  | enter {known after : Vector Bool n} {i : Fin n} {below rest : List (Entry n)} :
      ¬ IsShown known i → Reads (known.set i true i.2) rest after →
      Reads known (own i below :: rest) after
  | refer {known after : Vector Bool n} {i : Fin n} {rest : List (Entry n)} :
      IsShown known i → Reads known rest after → Reads known (shared i :: rest) after
  | count {known after : Vector Bool n} {rest : List (Entry n)} (children : Nat) :
      Reads known rest after → Reads known (omitted children :: rest) after

theorem Reads.append (reads : Reads known entries middle) (others : Reads middle more done) :
    Reads known (entries ++ more) done := by
  induction reads with
  | done => exact others
  | enter new _ ih => exact .enter new (ih others)
  | refer isShown _ ih => exact .refer isShown (ih others)
  | count children _ ih => exact .count children (ih others)

/-- No node has two entries of its own, and none has one that is known before. -/
theorem Reads.nodup (reads : Reads known entries done) :
    (entries.filterMap own?).Nodup ∧ ∀ i ∈ entries.filterMap own?, ¬ IsShown known i := by
  induction reads with
  | done => exact ⟨.nil, nofun⟩
  | @enter known after i below rest new _ ih =>
    obtain ⟨nodup, fresh⟩ := ih
    change (i :: rest.filterMap own?).Nodup ∧ ∀ j ∈ i :: rest.filterMap own?, ¬ IsShown known j
    constructor
    · refine List.nodup_cons.2 ⟨fun again => ?_, nodup⟩
      exact fresh i again (isShown_set_iff.2 (.inl rfl))
    · intro j isOwned isShown
      rcases List.mem_cons.1 isOwned with rfl | isLater
      · exact new isShown
      · exact fresh j isLater (isShown_set_iff.2 (.inr isShown))
  | refer _ _ ih => exact ih
  | count _ _ ih => exact ih

/-- A node that is referred to is known before, or has its own entry above. -/
theorem Reads.above (reads : Reads known (before ++ shared i :: after) done) :
    IsShown known i ∨ ∃ below, own i below ∈ before := by
  induction before generalizing known with
  | nil =>
    cases reads with
    | refer isShown => exact .inl isShown
  | cons entry before ih =>
    have further (isAbove : ∃ below, own i below ∈ before) :
        ∃ below, own i below ∈ entry :: before := by
      obtain ⟨below, isAbove⟩ := isAbove
      exact ⟨below, List.mem_cons_of_mem _ isAbove⟩
    rw [List.cons_append] at reads
    cases reads with
    | @enter _ _ j below _ new others =>
      rcases ih others with isShown | isAbove
      · rcases isShown_set_iff.1 isShown with rfl | isShown
        · exact .inr ⟨below, List.mem_cons_self⟩
        · exact .inl isShown
      · exact .inr (further isAbove)
    | refer _ others => exact (ih others).imp_right further
    | count _ others => exact (ih others).imp_right further

theorem reads_ofChildren {enter : Fin n → Vector Bool n → Entry n × Vector Bool n}
    (each : ∀ c shown, ¬ IsShown shown c →
      Reads shown (enter c (shown.set c true c.2)).1.inOrder (enter c (shown.set c true c.2)).2)
    (children : List (Fin n)) (shown : Vector Bool n) :
    Reads shown (inOrderBelow (ofChildren enter children shown).1)
      (ofChildren enter children shown).2 := by
  induction children, shown using ofChildren_induction with
  | none shown => exact .done shown
  | refer isShown ih => exact .refer isShown ih
  | own new ih => exact (each _ _ new).append ih

/-- A drawing can be read: the nodes that are shown are those that the reading knows. -/
theorem reads_ofNode (g : Graph n) (levels : Nat) (i : Fin n) (shown : Vector Bool n)
    (new : ¬ IsShown shown i) :
    Reads shown (ofNode g levels i (shown.set i true i.2)).1.inOrder
      (ofNode g levels i (shown.set i true i.2)).2 := by
  induction levels generalizing i shown with
  | zero =>
    unfold ofNode
    refine .enter new ?_
    split
    · exact .done _
    · exact .count _ (.done _)
  | succ levels ih =>
    unfold ofNode
    exact .enter new (reads_ofChildren ih (g i) _)

/-! ## Places -/

theorem exists_ofNode_eq_own (g : Graph n) (levels : Nat) (i : Fin n) (shown : Vector Bool n) :
    ∃ below, (ofNode g levels i shown).1 = own i below :=
  (drawn_ofNode g levels i shown).top

/-- Below an entry that is drawn without a level left there is at most a number of children. -/
theorem eq_omitted_of_mem (isEntry : entry ∈ if (g i).isEmpty then [] else [omitted (g i).length]) :
    entry = omitted (g i).length ∧ ∃ c, g.Child c i := by
  split at isEntry
  · cases isEntry
  · rename_i someChild
    exact ⟨List.mem_singleton.1 isEntry,
      List.exists_mem_of_ne_nil _ fun none => someChild (List.isEmpty_iff.2 none)⟩

/-- An entry within a drawing is the whole drawing, or stands in that of a child with one level
less, or is a reference or a number of children on the second level. -/
theorem at_ofNode (stands : At level entry (ofNode g levels i shown).1) :
    (level = 1 ∧ entry = (ofNode g levels i shown).1) ∨
      ∃ c, g.Child c i ∧ ((level = 2 ∧ entry.own? = none) ∨
        ∃ left start above, levels = left + 1 ∧ level = above + 1 ∧
          At above entry (ofNode g left c start).1) := by
  cases levels with
  | zero =>
    unfold ofNode at stands
    cases stands with
    | top => exact .inl ⟨rfl, rfl⟩
    | inside isEntry stands =>
      obtain ⟨rfl, c, isChild⟩ := eq_omitted_of_mem isEntry
      cases stands
      exact .inr ⟨c, isChild, .inl ⟨rfl, rfl⟩⟩
  | succ levels =>
    unfold ofNode at stands
    cases stands with
    | top => exact .inl ⟨rfl, rfl⟩
    | @inside above _ _ _ _ isEntry stands =>
      obtain ⟨c, isChild, rfl | ⟨start, rfl⟩⟩ := exists_enter_of_mem_ofChildren isEntry
      · cases stands
        exact .inr ⟨c, isChild, .inl ⟨rfl, rfl⟩⟩
      · exact .inr ⟨c, isChild, .inr ⟨levels, start, above, rfl, rfl, stands⟩⟩

/-- A node's own entry within a drawing is a drawing of the node, with as many levels left as there
are from its level on. -/
theorem exists_ofNode_of_at (stands : At level (own j below) (ofNode g levels i shown).1) :
    ∃ left start, level + left = levels + 1 ∧ own j below = (ofNode g left j start).1 := by
  induction levels using Nat.strongRecOn generalizing i shown level with
  | _ levels ih =>
    rcases at_ofNode stands with ⟨rfl, same⟩ |
      ⟨c, -, ⟨-, noOwn⟩ | ⟨left, start, above, rfl, rfl, inside⟩⟩
    · obtain ⟨below', same'⟩ := exists_ofNode_eq_own g levels i shown
      cases same.trans same'
      exact ⟨levels, shown, Nat.add_comm 1 levels, same⟩
    · cases noOwn
    · obtain ⟨left', start', levels_eq, same⟩ := ih left (Nat.lt_succ_self left) inside
      exact ⟨left', start', by omega, same⟩

/-- An entry stands no lower than a way down leads, and at most one level below the last. -/
theorem exists_leadsDown_of_at (stands : At level entry (ofNode g levels i shown).1) :
    level ≤ levels + 2 ∧ ∃ path, g.LeadsDown (i :: path) ∧ level ≤ (i :: path).length := by
  have single (i : Fin n) : g.LeadsDown [i] := List.isChain_singleton i
  induction levels using Nat.strongRecOn generalizing i shown level with
  | _ levels ih =>
    rcases at_ofNode stands with ⟨rfl, -⟩ |
      ⟨c, isChild, ⟨rfl, -⟩ | ⟨left, start, above, rfl, rfl, inside⟩⟩
    · exact ⟨by omega, [], single i, Nat.le_refl 1⟩
    · exact ⟨by omega, [c], Graph.leadsDown_cons_cons_iff.2 ⟨isChild, single c⟩, Nat.le_refl 2⟩
    · obtain ⟨inLevels, path, leads, inPath⟩ := ih left (Nat.lt_succ_self left) inside
      exact ⟨by omega, c :: path, Graph.leadsDown_cons_cons_iff.2 ⟨isChild, leads⟩,
        Nat.succ_le_succ inPath⟩

/-! ## Walks -/

theorem walk_ofChildren {enter : Fin n → Vector Bool n → Entry n × Vector Bool n}
    (shown : Vector Bool n) (later : List (Fin n))
    (each : ∀ c ∈ children, ∀ shown later, ¬ IsShown shown c →
      g.walk shown (c :: later) = owned (enter c (shown.set c true c.2)).1 ++
        g.walk (enter c (shown.set c true c.2)).2 later) :
    g.walk shown (children ++ later) = ownedBelow (ofChildren enter children shown).1 ++
      g.walk (ofChildren enter children shown).2 later := by
  induction children, shown using ofChildren_induction with
  | none => rfl
  | refer isShown ih =>
    rw [List.cons_append, Graph.walk_of_seen isShown]
    exact ih fun other isLater => each other (List.mem_cons_of_mem _ isLater)
  | @own c _ shown _ _ new ih =>
    have rest := ih fun other isLater => each other (List.mem_cons_of_mem _ isLater)
    rw [List.cons_append, each c List.mem_cons_self shown _ new, rest]
    exact (List.append_assoc _ _ _).symm

/-- Where no way down is longer than there are levels, a walk comes to the nodes of a drawing, in
the order of their entries, and goes on from there. -/
theorem walk_ofNode (later : List (Fin n)) (new : ¬ IsShown shown i)
    (bound : ∀ path, g.LeadsDown (i :: path) → (i :: path).length ≤ levels + 1) :
    g.walk shown (i :: later) = owned (ofNode g levels i (shown.set i true i.2)).1 ++
      g.walk (ofNode g levels i (shown.set i true i.2)).2 later := by
  induction levels generalizing i shown later with
  | zero =>
    have noChild : g i = [] := by
      refine List.eq_nil_iff_forall_not_mem.2 fun c isChild => ?_
      have leads : g.LeadsDown [i, c] :=
        Graph.leadsDown_cons_cons_iff.2 ⟨isChild, List.isChain_singleton c⟩
      have tooLong := bound [c] leads
      exact absurd tooLong (by simp)
    rw [Graph.walk_of_new (Bool.eq_false_iff.2 new), noChild]
    unfold ofNode
    rw [noChild]
    rfl
  | succ levels ih =>
    rw [Graph.walk_of_new (Bool.eq_false_iff.2 new)]
    unfold ofNode
    refine congrArg (i :: ·) (walk_ofChildren _ later fun c isChild shown later new => ?_)
    apply ih later new
    intro path leads
    have longer := bound (c :: path) (Graph.leadsDown_cons_cons_iff.2 ⟨isChild, leads⟩)
    exact Nat.le_of_succ_le_succ longer

/-! ## Lines -/

/-- A line is the text of an entry, behind what leads to it. -/
def IsLineOf (label : Fin n → String) (line : String) (entry : Entry n) : Prop :=
  ∃ guide, IsGuide guide ∧ line = guide ++ head label entry

mutual

/-- The lines of an entry are those of the entries that are read, one by one. -/
theorem forall₂_lines (label : Fin n → String) :
    ∀ (entry : Entry n) {lead indent : String}, IsGuide lead → IsGuide indent →
      List.Forall₂ (IsLineOf label) (lines label lead indent entry) (inOrder entry)
  | own i below, lead, indent, guide, guide' => by
    unfold lines inOrder
    exact .cons ⟨lead, guide, rfl⟩ (forall₂_linesBelow label below guide')
  | shared i, lead, indent, guide, _ => by
    unfold lines inOrder
    exact .cons ⟨lead, guide, rfl⟩ .nil
  | omitted children, lead, indent, guide, _ => by
    unfold lines inOrder
    exact .cons ⟨lead, guide, rfl⟩ .nil

theorem forall₂_linesBelow (label : Fin n → String) :
    ∀ (entries : List (Entry n)) {indent : String}, IsGuide indent →
      List.Forall₂ (IsLineOf label) (linesBelow label indent entries) (inOrderBelow entries)
  | [], _, _ => by
    unfold linesBelow inOrderBelow
    exact .nil
  | [entry], indent, guide => by
    obtain ⟨last, blank, -⟩ := guide.steps
    unfold linesBelow inOrderBelow inOrderBelow
    rw [List.append_nil]
    exact forall₂_lines label entry last blank
  | entry :: next :: rest, indent, guide => by
    obtain ⟨-, -, more, beside⟩ := guide.steps
    have others := forall₂_linesBelow label (next :: rest) guide
    unfold linesBelow
    rw [inOrderBelow]
    exact List.rel_append (forall₂_lines label entry more beside) others

end

end Entry

namespace Tree

open Entry

variable {t : Tree}

/-- An outline can be read from its first line on, where no node is known yet. -/
theorem exists_reads_outline (t : Tree) :
    ∃ done, Reads (Vector.replicate t.size false) t.outline.inOrder done :=
  ⟨_, reads_ofNode t.graph (outlineLevels - 1) t.root _ not_isShown_replicate⟩

theorem nodup_owned_outline (t : Tree) : t.outline.owned.Nodup := by
  obtain ⟨done, reads⟩ := t.exists_reads_outline
  rw [owned_eq_filterMap]
  exact reads.nodup.1

/-- A node that an outline refers to has its own entry on a line above. -/
theorem exists_own_above {k : Fin t.size} {before after : List (Entry t.size)}
    (split : t.outline.inOrder = before ++ shared k :: after) : ∃ below, own k below ∈ before := by
  obtain ⟨done, reads⟩ := t.exists_reads_outline
  rw [split] at reads
  exact reads.above.resolve_left not_isShown_replicate

/-- An outline has no more levels than the tree, and at most one more than it opens nodes on. -/
theorem level_le_of_at {level : Nat} {entry : Entry t.size} (stands : At level entry t.outline) :
    level ≤ min t.depth (outlineLevels + 1) := by
  obtain ⟨inLevels, path, leads, inPath⟩ := exists_leadsDown_of_at stands
  exact Nat.le_min.2 ⟨Nat.le_trans inPath (t.isHeight_depth.bound path leads), inLevels⟩

/-- A tree that is no deeper than its outline is shown as a whole, in the order of a walk. -/
theorem owned_outline_eq_preorder (inLevels : t.depth ≤ outlineLevels) :
    t.outline.owned = t.preorder := by
  have bound : ∀ path, t.graph.LeadsDown (t.root :: path) →
      (t.root :: path).length ≤ outlineLevels - 1 + 1 := fun path leads =>
    Nat.le_trans (t.isHeight_depth.bound path leads) inLevels
  have whole := walk_ofNode [] not_isShown_replicate bound
  rw [Graph.walk, List.append_nil] at whole
  exact whole.symm

/-- The form of the outline of a tree. It is what a drawing with frames ends with. Its top is the
root, with the version and the date. A node's own entry above the last level has an entry for each
of its children, and one at the last level has their number. No node has two, and each reference
stands below the node's own. -/
structure WellOutlined (t : Tree) : Prop where
  drawn : ∃ shown, Draws t.graph outlineLevels (.start t.root) ⟨shown, [], some t.outline⟩
  root : ∃ below, t.outline = own t.root below
  rootText : t.outlineLabel t.root =
    (t.node t.root).label ++ " (v" ++ t.version ++ ", " ++ t.publishDate ++ ")"
  text : ∀ i ≠ t.root, t.outlineLabel i = (t.node i).label
  referText : ∀ k, head t.outlineLabel (shared k) =
    "#" ++ toString k.1 ++ " (shared, shown above)"
  countText : ∀ children, head t.outlineLabel (omitted children) =
    "... " ++ toString children ++ " children not shown"
  printed : List.Forall₂ (IsLineOf t.outlineLabel) (t.outline.lines t.outlineLabel "" "")
    t.outline.inOrder
  inLevels : ∀ level i below, At level (own i below) t.outline → level ≤ outlineLevels
  opened : ∀ level i below, At level (own i below) t.outline → level < outlineLevels →
    List.Forall₂ StandsFor (t.graph i) below
  closed : ∀ i below, At outlineLevels (own i below) t.outline →
    below = if (t.graph i).isEmpty then [] else [omitted (t.graph i).length]
  once : t.outline.owned.Nodup
  above : ∀ before k after, t.outline.inOrder = before ++ shared k :: after →
    ∃ below, own k below ∈ before
  levels : ∀ level entry, At level entry t.outline → level ≤ min t.depth (outlineLevels + 1)
  whole : t.depth ≤ outlineLevels → t.outline.owned = t.preorder

/-- Every outline has this form. -/
theorem wellOutlined (t : Tree) : t.WellOutlined := by
  have drawing {level : Nat} {i : Fin t.size} {below : List (Entry t.size)}
      (stands : At level (own i below) t.outline) :
      ∃ left start, level + left = outlineLevels ∧
        own i below = (ofNode t.graph left i start).1 :=
    exists_ofNode_of_at stands
  refine
    { drawn := t.exists_draws_outline
      root := exists_ofNode_eq_own t.graph (outlineLevels - 1) t.root _
      rootText := if_pos rfl
      text := fun i other => if_neg other
      referText := fun k => rfl
      countText := fun children => rfl
      printed := forall₂_lines _ _ (by decide) (by decide)
      inLevels := fun level i below stands => ?_
      opened := fun level i below stands above => ?_
      closed := fun i below stands => ?_
      once := t.nodup_owned_outline
      above := fun before k after => exists_own_above
      levels := fun level entry => level_le_of_at
      whole := owned_outline_eq_preorder }
  · obtain ⟨left, start, levels_eq, -⟩ := drawing stands
    omega
  · obtain ⟨left, start, levels_eq, same⟩ := drawing stands
    obtain ⟨left, rfl⟩ : ∃ rest, left = rest + 1 := ⟨left - 1, by omega⟩
    unfold ofNode at same
    cases same
    exact standsFor_ofChildren (exists_ofNode_eq_own t.graph left) (t.graph i) start
  · obtain ⟨left, start, levels_eq, same⟩ := drawing stands
    obtain rfl : left = 0 := by omega
    unfold ofNode at same
    cases same
    rfl

end Tree

end EvidenceTree
