import EvidenceTree.Proofs.Graph.Walks
import EvidenceTree.Proofs.Tree.Labels
import EvidenceTree.Tree.Outline

/-!
# What an outline shows

An outline is drawn by a walk that keeps which nodes are shown already. A node has an entry of its
own at the place where the walk first comes to it, however far down that is; met again, it is only
referred to. So a limit of levels hides more than what lies below it: a node that is first met at
the last level keeps its children to itself, also where another path comes to it sooner.

* `Entry.Drawn`: what the drawing of one entry adds to the nodes that are shown.
* `Tree.mem_owned_of_shows`: the text shows no other nodes than the outline.
* `Tree.mem_owned_outline_iff`: the nodes that an outline shows, by the paths that lead to them.
* `Tree.longWay`: a tree whose outline hides a node of the third level.
-/

namespace EvidenceTree

open Text (OneLine allBreaks allBreaks_append allBreaks_eq_zero_iff breaks breaks_append
  breaks_eq_zero_iff)

/-! ## Paths -/

/-- The nodes of a path along children, from the first to the last. -/
inductive Graph.Path {n : Nat} (g : Graph n) : Fin n → List (Fin n) → Fin n → Prop
  | here (i : Fin n) : Path g i [i] i
  | down {p c i : Fin n} {path : List (Fin n)} : g.Child c p → Path g c path i →
      Path g p (p :: path) i

theorem Graph.Path.ne_nil {n : Nat} {g : Graph n} {i j : Fin n} {path : List (Fin n)}
    (leads : g.Path i path j) : path ≠ [] := by
  cases leads <;> nofun

namespace Entry

variable {n : Nat} {g : Graph n} {levels level : Nat} {i j c : Fin n} {entry : Entry n}
  {below entries : List (Entry n)} {children : List (Fin n)} {before after : Vector Bool n}

/-! ## Entries within an outline -/

/-- An entry stands at a level of an outline, whose own level is the first. -/
inductive At : Nat → Entry n → Entry n → Prop
  | top (entry : Entry n) : At 1 entry entry
  | inside {level : Nat} {i : Fin n} {entry child : Entry n} {entries : List (Entry n)} :
      child ∈ entries → At level entry child → At (level + 1) entry (own i entries)

mutual

/-- The nodes with an entry of their own, in the order of the lines. -/
def owned : Entry n → List (Fin n)
  | own i below => i :: ownedBelow below
  | shared _ => []
  | omitted _ => []

/-- The nodes with an entry of their own in entries of one level. -/
def ownedBelow : List (Entry n) → List (Fin n)
  | [] => []
  | entry :: rest => owned entry ++ ownedBelow rest

end

theorem mem_ownedBelow_iff : i ∈ ownedBelow entries ↔ ∃ entry ∈ entries, i ∈ owned entry := by
  induction entries with
  | nil => simp [ownedBelow]
  | cons entry rest ih => simp [ownedBelow, ih]

theorem At.mem_owned (stands : At level (own i below) entry) : i ∈ entry.owned := by
  generalize here : own i below = found at stands
  induction stands with
  | top =>
    subst here
    exact List.mem_cons_self
  | inside isBelow _ ih => exact List.mem_cons_of_mem _ (mem_ownedBelow_iff.2 ⟨_, isBelow, ih here⟩)

mutual

theorem exists_at_of_mem_owned : ∀ {entry : Entry n}, i ∈ owned entry →
    ∃ level below, At level (own i below) entry
  | own j entries, isOwned => by
    rcases List.mem_cons.1 isOwned with rfl | isBelow
    · exact ⟨1, entries, .top _⟩
    · obtain ⟨child, isEntry, level, below, stands⟩ := exists_at_of_mem_ownedBelow isBelow
      exact ⟨level + 1, below, .inside isEntry stands⟩
  | shared _, isOwned => nomatch isOwned
  | omitted _, isOwned => nomatch isOwned

theorem exists_at_of_mem_ownedBelow : ∀ {entries : List (Entry n)}, i ∈ ownedBelow entries →
    ∃ entry ∈ entries, ∃ level below, At level (own i below) entry
  | entry :: rest, isOwned => by
    rcases List.mem_append.1 isOwned with inFirst | inRest
    · exact ⟨entry, List.mem_cons_self, exists_at_of_mem_owned inFirst⟩
    · obtain ⟨child, isEntry, found⟩ := exists_at_of_mem_ownedBelow inRest
      exact ⟨child, List.mem_cons_of_mem _ isEntry, found⟩

end

/-- A node with an entry of its own down to a level. -/
def Opens (levels : Nat) (i : Fin n) (entry : Entry n) : Prop :=
  ∃ level below, level ≤ levels ∧ At level (own i below) entry

theorem Opens.inside (opens : Opens levels i entry) (isBelow : entry ∈ entries) :
    Opens (levels + 1) i (own j entries) := by
  obtain ⟨level, below, inLevels, stands⟩ := opens
  exact ⟨level + 1, below, Nat.succ_le_succ inLevels, .inside isBelow stands⟩

/-! ## Drawing -/

/-- A node is marked as shown. -/
def IsShown (shown : Vector Bool n) (j : Fin n) : Prop := shown.get j = true

instance (shown : Vector Bool n) (j : Fin n) : Decidable (IsShown shown j) :=
  inferInstanceAs (Decidable (shown.get j = true))

theorem isShown_set_iff {shown : Vector Bool n} :
    IsShown (shown.set c true c.2) j ↔ j = c ∨ IsShown shown j :=
  Graph.get_set_true_iff

theorem not_isShown_replicate : ¬ IsShown (Vector.replicate n false) j :=
  Bool.eq_false_iff.1 Graph.get_replicate_false

section

variable {enter : Fin n → Vector Bool n → Entry n × Vector Bool n} {shown : Vector Bool n}

theorem ofChildren_cons :
    ofChildren enter (c :: children) shown =
      (fun first : Entry n × Vector Bool n =>
        (first.1 :: (ofChildren enter children first.2).1, (ofChildren enter children first.2).2))
        (if IsShown shown c then (shared c, shown) else enter c (shown.set c true c.2)) :=
  rfl

theorem ofChildren_of_isShown (known : IsShown shown c) :
    ofChildren enter (c :: children) shown =
      (shared c :: (ofChildren enter children shown).1, (ofChildren enter children shown).2) := by
  rw [ofChildren_cons, if_pos known]

theorem ofChildren_of_not_isShown (fresh : ¬ IsShown shown c) :
    ofChildren enter (c :: children) shown =
      let first := enter c (shown.set c true c.2)
      (first.1 :: (ofChildren enter children first.2).1,
        (ofChildren enter children first.2).2) := by
  rw [ofChildren_cons, if_neg fresh]

/-- What holds of no children, and of one child more that is referred to or entered, holds of the
entries of any children. -/
theorem ofChildren_induction
    {motive : List (Fin n) → Vector Bool n → List (Entry n) → Vector Bool n → Prop}
    (none : ∀ shown, motive [] shown [] shown)
    (refer : ∀ {c children shown entries after}, IsShown shown c →
      motive children shown entries after →
        motive (c :: children) shown (shared c :: entries) after)
    (own : ∀ {c children shown entries after}, ¬ IsShown shown c →
      motive children (enter c (shown.set c true c.2)).2 entries after →
      motive (c :: children) shown ((enter c (shown.set c true c.2)).1 :: entries) after)
    (children : List (Fin n)) (shown : Vector Bool n) :
    motive children shown (ofChildren enter children shown).1
      (ofChildren enter children shown).2 := by
  induction children generalizing shown with
  | nil => exact none shown
  | cons c children ih =>
    by_cases isShown : IsShown shown c
    · rw [ofChildren_of_isShown isShown]
      exact refer isShown (ih shown)
    · rw [ofChildren_of_not_isShown isShown]
      exact own isShown (ih _)

end

/-- What the drawing of the entry of a node adds, given how many levels there are below it: the
nodes it shows are those that have an entry in it, at the end of paths through opened nodes; the
children of an opened node are shown, and those of a node at the last level are counted. -/
structure Drawn (g : Graph n) (levels : Nat) (before after : Vector Bool n) (i : Fin n)
    (entry : Entry n) : Prop where
  top : ∃ below, entry = own i below
  kept : ∀ j : Fin n, IsShown before j → IsShown after j
  owned : ∀ j : Fin n, IsShown after j → IsShown before j ∨ j ∈ entry.owned
  path : ∀ level j below, At level (own j below) entry → level ≤ levels + 1 ∧
    ∃ path, g.Path i path j ∧ path.length = level ∧ ∀ k ∈ path.dropLast, Opens levels k entry
  opened : ∀ k, Opens levels k entry → ∀ c ∈ g k, IsShown after c
  cut : ∀ j below, At (levels + 1) (own j below) entry → g j ≠ [] →
    below = [omitted (g j).length]

/-- What the drawing of the entries of children adds: each child is shown then, and an entry is a
reference or has been drawn of a child. -/
structure DrawnBelow (g : Graph n) (levels : Nat) (before after : Vector Bool n)
    (children : List (Fin n)) (entries : List (Entry n)) : Prop where
  kept : ∀ j : Fin n, IsShown before j → IsShown after j
  owned : ∀ j : Fin n, IsShown after j → IsShown before j ∨ j ∈ ownedBelow entries
  reached : ∀ c ∈ children, IsShown after c
  each : ∀ entry ∈ entries, (∃ c, entry = shared c) ∨
    ∃ c ∈ children, ∃ start stop : Vector Bool n,
      (∀ j : Fin n, IsShown stop j → IsShown after j) ∧ Drawn g levels start stop c entry

theorem Drawn.mem_owned_self (drawn : Drawn g levels before after i entry) : i ∈ entry.owned := by
  obtain ⟨below, rfl⟩ := drawn.top
  exact List.mem_cons_self

/-- A child that is shown already is referred to. -/
theorem DrawnBelow.pass (drawn : DrawnBelow g levels before after children entries)
    (known : IsShown before c) :
    DrawnBelow g levels before after (c :: children) (shared c :: entries) := by
  refine ⟨drawn.kept, drawn.owned, fun child isChild => ?_, fun entry isEntry => ?_⟩
  · rcases List.mem_cons.1 isChild with rfl | isOther
    · exact drawn.kept child known
    · exact drawn.reached child isOther
  · rcases List.mem_cons.1 isEntry with rfl | isOther
    · exact .inl ⟨c, rfl⟩
    · rcases drawn.each entry isOther with reference | ⟨child, isChild, found⟩
      · exact .inl reference
      · exact .inr ⟨child, List.mem_cons_of_mem _ isChild, found⟩

/-- A child that is not shown yet is drawn, and its siblings with what is shown then. -/
theorem DrawnBelow.enter {middle : Vector Bool n}
    (drawn : DrawnBelow g levels middle after children entries)
    (first : Drawn g levels (before.set c true c.2) middle c entry) :
    DrawnBelow g levels before after (c :: children) (entry :: entries) := by
  refine ⟨fun j shown => ?_, fun j shown => ?_, fun child isChild => ?_, fun other isEntry => ?_⟩
  · exact drawn.kept j (first.kept j (isShown_set_iff.2 (.inr shown)))
  · unfold ownedBelow
    rw [List.mem_append]
    rcases drawn.owned j shown with shown | inOthers
    · rcases first.owned j shown with shown | inFirst
      · rcases isShown_set_iff.1 shown with rfl | shown
        · exact .inr (.inl first.mem_owned_self)
        · exact .inl shown
      · exact .inr (.inl inFirst)
    · exact .inr (.inr inOthers)
  · rcases List.mem_cons.1 isChild with rfl | isOther
    · exact drawn.kept child (first.kept child (isShown_set_iff.2 (.inl rfl)))
    · exact drawn.reached child isOther
  · rcases List.mem_cons.1 isEntry with rfl | isOther
    · exact .inr ⟨c, List.mem_cons_self, _, middle, drawn.kept, first⟩
    · rcases drawn.each other isOther with reference | ⟨child, isChild, found⟩
      · exact .inl reference
      · exact .inr ⟨child, List.mem_cons_of_mem _ isChild, found⟩

theorem drawnBelow_ofChildren {enter : Fin n → Vector Bool n → Entry n × Vector Bool n}
    (drawn : ∀ c shown, Drawn g levels shown (enter c shown).2 c (enter c shown).1)
    (children : List (Fin n)) (shown : Vector Bool n) :
    DrawnBelow g levels shown (ofChildren enter children shown).2 children
      (ofChildren enter children shown).1 := by
  induction children, shown using ofChildren_induction with
  | none => exact ⟨fun _ => id, fun _ => .inl, nofun, nofun⟩
  | refer known ih => exact ih.pass known
  | own _ ih => exact ih.enter (drawn _ _)

/-- What is drawn of the children of a node is drawn of the node, one level further up. -/
theorem DrawnBelow.drawn (drawn : DrawnBelow g levels before after (g i) entries) :
    Drawn g (levels + 1) before after i (own i entries) := by
  have ofChild {level : Nat} {j : Fin n} {below : List (Entry n)} {child : Entry n}
      (isEntry : child ∈ entries) (stands : At level (own j below) child) :
      ∃ c ∈ g i, ∃ start stop : Vector Bool n,
        (∀ j : Fin n, IsShown stop j → IsShown after j) ∧ Drawn g levels start stop c child := by
    rcases drawn.each child isEntry with ⟨c, rfl⟩ | found
    · cases stands
    · exact found
  refine
    { top := ⟨entries, rfl⟩
      kept := drawn.kept
      owned := fun j shown => (drawn.owned j shown).imp_right (List.mem_cons_of_mem _)
      path := fun level j below stands => ?_
      opened := fun k opens c isChild => ?_
      cut := fun j below stands => ?_ }
  · cases stands with
    | top => exact ⟨Nat.succ_le_succ (Nat.zero_le _), [i], .here i, rfl, nofun⟩
    | inside isEntry stands =>
      obtain ⟨c, isChild, start, stop, -, drawnChild⟩ := ofChild isEntry stands
      obtain ⟨inLevels, path, leads, length_eq, opened⟩ := drawnChild.path _ _ _ stands
      refine ⟨Nat.succ_le_succ inLevels, i :: path, .down isChild leads,
        congrArg (· + 1) length_eq, fun k inFront => ?_⟩
      rw [List.dropLast_cons_of_ne_nil leads.ne_nil] at inFront
      rcases List.mem_cons.1 inFront with rfl | inFront
      · exact ⟨1, entries, Nat.succ_le_succ (Nat.zero_le _), .top _⟩
      · exact (opened k inFront).inside isEntry
  · obtain ⟨level, below, inLevels, stands⟩ := opens
    cases stands with
    | top => exact drawn.reached c isChild
    | inside isEntry stands =>
      obtain ⟨_, -, start, stop, kept, drawnChild⟩ := ofChild isEntry stands
      exact kept c (drawnChild.opened k ⟨_, below, Nat.le_of_succ_le_succ inLevels, stands⟩ c
        isChild)
  · cases stands with
    | inside isEntry stands =>
      obtain ⟨_, -, start, stop, -, drawnChild⟩ := ofChild isEntry stands
      exact drawnChild.cut j below stands

/-- Where no levels are left, the children are only counted. -/
theorem drawn_ofNode_zero (g : Graph n) (i : Fin n) (shown : Vector Bool n) :
    Drawn g 0 shown (ofNode g 0 i shown).2 i (ofNode g 0 i shown).1 := by
  have onlyTop {level : Nat} {j : Fin n} {below : List (Entry n)}
      (stands : At level (own j below) (ofNode g 0 i shown).1) :
      level = 1 ∧ own j below = (ofNode g 0 i shown).1 := by
    unfold ofNode at stands ⊢
    cases stands with
    | top => exact ⟨rfl, rfl⟩
    | inside isEntry stands =>
      split at isEntry
      · cases isEntry
      · rw [List.mem_singleton.1 isEntry] at stands
        cases stands
  refine
    { top := ⟨_, rfl⟩
      kept := fun _ => id
      owned := fun _ => .inl
      path := fun level j below stands => ?_
      opened := fun k opens => ?_
      cut := fun j below stands some => ?_ }
  · obtain ⟨rfl, same⟩ := onlyTop stands
    cases same
    exact ⟨Nat.le_refl 1, [i], .here i, rfl, nofun⟩
  · obtain ⟨level, below, inLevels, stands⟩ := opens
    obtain ⟨rfl, -⟩ := onlyTop stands
    exact absurd inLevels (Nat.not_succ_le_zero 0)
  · obtain ⟨-, same⟩ := onlyTop stands
    cases same
    exact if_neg fun empty => some (List.isEmpty_iff.1 empty)

theorem drawn_ofNode (g : Graph n) (levels : Nat) (i : Fin n) (shown : Vector Bool n) :
    Drawn g levels shown (ofNode g levels i shown).2 i (ofNode g levels i shown).1 := by
  induction levels generalizing i shown with
  | zero => exact drawn_ofNode_zero g i shown
  | succ levels ih =>
    unfold ofNode
    exact (drawnBelow_ofChildren ih (g i) shown).drawn

/-! ## Lines -/

/-- The characters that lead from an entry to those below it. -/
def guideChars : List Char := ['│', '├', '└', '─', ' ']

/-- Nothing but what leads from an entry to those below it. -/
def IsGuide (lead : String) : Prop := ∀ c ∈ lead.toList, c ∈ guideChars

instance : DecidablePred IsGuide := fun lead => List.decidableBAll _ lead.toList

theorem IsGuide.append {a b : String} (left : IsGuide a) (right : IsGuide b) :
    IsGuide (a ++ b) := by
  intro c inBoth
  rw [String.toList_append] at inBoth
  rcases List.mem_append.1 inBoth with inLeft | inRight
  · exact left c inLeft
  · exact right c inRight

/-- What leads to an entry is continued in four ways, for the last entry below it and for those
before the last, and for what lies further down. -/
theorem IsGuide.steps {indent : String} (guide : IsGuide indent) :
    IsGuide (indent ++ "└── ") ∧ IsGuide (indent ++ "    ") ∧ IsGuide (indent ++ "├── ") ∧
      IsGuide (indent ++ "│   ") :=
  ⟨guide.append (by decide), guide.append (by decide), guide.append (by decide),
    guide.append (by decide)⟩

/-- The lines of an entry of one level are among those of its level. -/
theorem exists_lines_subset_linesBelow (label : Fin n → String) {indent : String}
    (guide : IsGuide indent) (isEntry : entry ∈ entries) :
    ∃ lead inner, IsGuide lead ∧ IsGuide inner ∧
      lines label lead inner entry ⊆ linesBelow label indent entries := by
  obtain ⟨last, blank, more, beside⟩ := guide.steps
  induction entries with
  | nil => cases isEntry
  | cons first rest ih =>
    cases rest with
    | nil =>
      cases List.mem_singleton.1 isEntry
      exact ⟨_, _, last, blank, by simp [linesBelow]⟩
    | cons second rest =>
      rcases List.mem_cons.1 isEntry with rfl | isOther
      · exact ⟨_, _, more, beside, by simp [linesBelow]⟩
      · obtain ⟨lead, inner, guides, guides', inRest⟩ := ih isOther
        refine ⟨lead, inner, guides, guides', fun text isLine => ?_⟩
        unfold linesBelow
        exact List.mem_append_right _ (inRest isLine)

/-- A node with an entry of its own has its label on a line, behind what leads to the entry. -/
theorem At.exists_line (label : Fin n → String) (stands : At level (own i below) entry) :
    ∀ {lead indent : String}, IsGuide lead → IsGuide indent →
      ∃ guide, IsGuide guide ∧ guide ++ label i ∈ lines label lead indent entry := by
  generalize here : own i below = found at stands
  induction stands with
  | top =>
    subst here
    intro lead indent guide _
    exact ⟨lead, guide, by simp [lines]⟩
  | inside isEntry _ ih =>
    intro lead indent _ guide
    obtain ⟨lead', indent', guide, guide', inLines⟩ :=
      exists_lines_subset_linesBelow label guide isEntry
    obtain ⟨lead'', guide'', isLine⟩ := ih here guide guide'
    refine ⟨lead'', guide'', ?_⟩
    unfold lines
    exact List.mem_cons_of_mem _ (inLines isLine)

section

variable {label : Fin n → String} {text lead lead' indent s s' : String}

mutual

/-- A line is what leads to an entry, and its head. -/
theorem exists_at_of_mem_lines : ∀ {entry : Entry n} {lead indent : String}, IsGuide lead →
    IsGuide indent → text ∈ lines label lead indent entry →
      ∃ level found guide, At level found entry ∧ IsGuide guide ∧ text = guide ++ head label found
  | own i below, lead, indent, guide, guide', isLine => by
    unfold lines at isLine
    rcases List.mem_cons.1 isLine with rfl | isBelow
    · exact ⟨1, own i below, lead, .top _, guide, rfl⟩
    · obtain ⟨child, isEntry, level, found, guide, stands, isGuide, text_eq⟩ :=
        exists_at_of_mem_linesBelow guide' isBelow
      exact ⟨level + 1, found, guide, .inside isEntry stands, isGuide, text_eq⟩
  | shared i, lead, indent, guide, _, isLine => by
    unfold lines at isLine
    exact ⟨1, shared i, lead, .top _, guide, List.mem_singleton.1 isLine⟩
  | omitted children, lead, indent, guide, _, isLine => by
    unfold lines at isLine
    exact ⟨1, omitted children, lead, .top _, guide, List.mem_singleton.1 isLine⟩

theorem exists_at_of_mem_linesBelow : ∀ {entries : List (Entry n)} {indent : String},
    IsGuide indent → text ∈ linesBelow label indent entries →
      ∃ child ∈ entries, ∃ level found guide, At level found child ∧ IsGuide guide ∧
        text = guide ++ head label found
  | [], _, _, isLine => by
    unfold linesBelow at isLine
    cases isLine
  | [entry], indent, guide, isLine => by
    unfold linesBelow at isLine
    obtain ⟨last, blank, -⟩ := guide.steps
    exact ⟨entry, List.mem_cons_self, exists_at_of_mem_lines last blank isLine⟩
  | entry :: next :: rest, indent, guide, isLine => by
    unfold linesBelow at isLine
    obtain ⟨-, -, more, beside⟩ := guide.steps
    rcases List.mem_append.1 isLine with inFirst | inRest
    · exact ⟨entry, List.mem_cons_self, exists_at_of_mem_lines more beside inFirst⟩
    · obtain ⟨child, isEntry, found⟩ := exists_at_of_mem_linesBelow guide inRest
      exact ⟨child, List.mem_cons_of_mem _ isEntry, found⟩

end

theorem IsGuide.oneLine (guide : IsGuide lead) : OneLine lead :=
  fun isChar => absurd (guide _ isChar) (by decide)

theorem oneLine_head (free : ∀ i, OneLine (label i)) (entry : Entry n) :
    OneLine (head label entry) := by
  have mark : OneLine "#" := by decide
  have remark : OneLine " (shared, shown above)" := by decide
  have dots : OneLine "... " := by decide
  have rest : OneLine " children not shown" := by decide
  cases entry with
  | own i below => exact free i
  | shared i => exact (mark.append (.number _)).append remark
  | omitted children => exact (dots.append (.number _)).append rest

/-- A text does not start like what leads to it. -/
def StartsPlain (s : String) : Prop := ∃ c, s.toList.head? = some c ∧ c ∉ guideChars

theorem startsPlain_head (starts : ∀ i, StartsPlain (label i)) (entry : Entry n) :
    StartsPlain (head label entry) := by
  cases entry with
  | own i below => exact starts i
  | shared i => exact ⟨'#', by simp [head], by decide⟩
  | omitted children => exact ⟨'.', by simp [head], by decide⟩

/-- What leads to texts that do not start like it can be taken off. -/
theorem IsGuide.cancel (guide : IsGuide lead) (guide' : IsGuide lead') (starts : StartsPlain s)
    (starts' : StartsPlain s') (same : lead ++ s = lead' ++ s') : s = s' := by
  have span {lead s : String} (guide : IsGuide lead) (starts : StartsPlain s) :
      (lead ++ s).toList.dropWhile (· ∈ guideChars) = s.toList := by
    obtain ⟨c, isFirst, noGuide⟩ := starts
    obtain ⟨rest, chars⟩ := List.head?_eq_some_iff.1 isFirst
    rw [String.toList_append, List.dropWhile_append_of_pos fun c isChar =>
      decide_eq_true (guide c isChar), chars]
    exact List.dropWhile_cons_of_neg fun isGuide => noGuide (of_decide_eq_true isGuide)
  rw [← String.toList_inj, ← span guide starts, same, span guide' starts']

end

end Entry

namespace Tree

open Entry

variable {t : Tree} {i j k : Fin t.size} {path : List (Fin t.size)}

/-! ## The outline of a tree -/

/-- A node has an entry of its own above the last level, so that its children have entries too. -/
def Opens (t : Tree) (i : Fin t.size) : Prop := t.outline.Opens (outlineLevels - 1) i

/-- A node has its own entry at the last level, where its children are only counted. -/
def Closes (t : Tree) (i : Fin t.size) : Prop :=
  At outlineLevels (own i [omitted (t.graph i).length]) t.outline

/-- The outline as text has the label of a node at the end of a line. -/
def Shows (t : Tree) (i : Fin t.size) : Prop :=
  ∃ before lead after, IsGuide lead ∧ (before = "" ∨ ∃ lines, before = lines ++ "\n") ∧
    t.outlineText = before ++ lead ++ t.outlineLabel i ++ "\n" ++ after

theorem exists_drawn_outline (t : Tree) :
    ∃ after, Drawn t.graph (outlineLevels - 1)
      ((Vector.replicate t.size false).set t.root true t.root.2) after t.root t.outline :=
  ⟨_, drawn_ofNode t.graph (outlineLevels - 1) t.root _⟩

theorem root_mem_owned_outline : t.root ∈ t.outline.owned :=
  (t.exists_drawn_outline.choose_spec).mem_owned_self

/-- The children of an opened node have entries of their own, there or elsewhere. -/
theorem Opens.mem_owned (opens : t.Opens i) (isChild : j ∈ t.graph i) : j ∈ t.outline.owned := by
  obtain ⟨after, drawn⟩ := t.exists_drawn_outline
  rcases drawn.owned j (drawn.opened i opens j isChild) with atFirst | isOwned
  · rcases isShown_set_iff.1 atFirst with rfl | never
    · exact root_mem_owned_outline
    · exact absurd never not_isShown_replicate
  · exact isOwned

/-- A node with an entry of its own is opened, or stands at the last level. -/
theorem opens_or_closes (isOwned : i ∈ t.outline.owned) (someChild : t.graph i ≠ []) :
    t.Opens i ∨ t.Closes i := by
  obtain ⟨after, drawn⟩ := t.exists_drawn_outline
  obtain ⟨level, below, stands⟩ := exists_at_of_mem_owned isOwned
  rcases Nat.lt_or_eq_of_le (drawn.path level i below stands).1 with above | last
  · exact .inl ⟨level, below, Nat.le_of_lt_succ above, stands⟩
  · subst last
    cases drawn.cut i below stands someChild
    exact .inr stands

/-- A path leads from a node with an entry to another, unless it comes through the last level. -/
theorem mem_owned_or_closes (leads : t.graph.Path j path i) (isOwned : j ∈ t.outline.owned) :
    (∀ k ∈ path.dropLast, t.Opens k) ∧ i ∈ t.outline.owned ∨ ∃ k ∈ path.dropLast, t.Closes k := by
  induction leads with
  | here i => exact .inl ⟨nofun, isOwned⟩
  | @down p c i path isChild rest ih =>
    rw [List.dropLast_cons_of_ne_nil rest.ne_nil]
    rcases opens_or_closes isOwned (List.ne_nil_of_mem isChild) with opens | closes
    · rcases ih (opens.mem_owned isChild) with ⟨opened, isOwned⟩ | ⟨k, inFront, closes⟩
      · exact .inl ⟨List.forall_mem_cons.2 ⟨opens, opened⟩, isOwned⟩
      · exact .inr ⟨k, List.mem_cons_of_mem _ inFront, closes⟩
    · exact .inr ⟨p, List.mem_cons_self, closes⟩

theorem mem_owned_of_opened (leads : t.graph.Path j path i) (isOwned : j ∈ t.outline.owned)
    (opened : ∀ k ∈ path.dropLast, t.Opens k) : i ∈ t.outline.owned := by
  induction leads with
  | here i => exact isOwned
  | @down p c i path isChild rest ih =>
    rw [List.dropLast_cons_of_ne_nil rest.ne_nil] at opened
    obtain ⟨opens, opened⟩ := List.forall_mem_cons.1 opened
    exact ih (opens.mem_owned isChild) opened

/-- A node with an entry of its own has its label in the text. -/
theorem shows_of_mem_owned (isOwned : i ∈ t.outline.owned) : t.Shows i := by
  obtain ⟨level, below, stands⟩ := exists_at_of_mem_owned isOwned
  have nothing : IsGuide "" := by decide
  obtain ⟨lead, guide, isLine⟩ := stands.exists_line t.outlineLabel nothing nothing
  obtain ⟨earlier, later, split⟩ := List.append_of_mem isLine
  refine ⟨String.join (earlier.map (· ++ "\n")), lead, String.join (later.map (· ++ "\n")), guide,
    ?_, ?_⟩
  · rcases earlier.eq_nil_or_concat with rfl | ⟨front, last, rfl⟩
    · exact .inl rfl
    · refine .inr ⟨String.join (front.map (· ++ "\n")) ++ last, ?_⟩
      simp [String.append_assoc]
  · unfold outlineText
    rw [split]
    simp [String.append_assoc]

/-! ## What the text tells -/

/-- The texts that an outline shows as they are have no line breaks. -/
structure FreeOfBreaks (t : Tree) : Prop where
  version : OneLine t.version
  publishDate : OneLine t.publishDate
  keys : ∀ i key, (t.node i).key = some key → OneLine key

/-- The texts that an outline shows as they are for a node: those of its label, and for the root the
version and the publication date. -/
def bareTexts (t : Tree) (i : Fin t.size) : List String :=
  (t.node i).bareTexts ++ if i = t.root then [t.version, t.publishDate] else []

theorem breaks_outlineLabel (t : Tree) (i : Fin t.size) :
    breaks (t.outlineLabel i) = allBreaks (t.bareTexts i) := by
  have opening : breaks " (v" = 0 := rfl
  have comma : breaks ", " = 0 := rfl
  have closing : breaks ")" = 0 := rfl
  unfold outlineLabel bareTexts
  rw [allBreaks_append, ← (t.node i).breaks_label]
  split
  · have parts : allBreaks [t.version, t.publishDate] = breaks t.version + breaks t.publishDate :=
      rfl
    simp only [breaks_append, opening, comma, closing, parts, Nat.add_zero, Nat.add_assoc]
  · rfl

theorem FreeOfBreaks.oneLine_outlineLabel (free : t.FreeOfBreaks) (i : Fin t.size) :
    OneLine (t.outlineLabel i) := by
  rw [← breaks_eq_zero_iff, t.breaks_outlineLabel, allBreaks_eq_zero_iff]
  intro text isBare
  rcases List.mem_append.1 isBare with isKey | atRoot
  · exact free.keys i text (Node.key_eq_of_mem_bareTexts isKey)
  · split at atRoot
    · rcases List.mem_cons.1 atRoot with rfl | isDate
      · exact free.version
      · exact List.mem_singleton.1 isDate ▸ free.publishDate
    · cases atRoot

theorem exists_question (i : Fin t.size) : ∃ question : List Char,
    (t.outlineLabel i).toList = '#' :: Nat.toDigits 10 i ++ ' ' :: question ∧
      ∃ c ∈ ['t', '=', '['], c ∈ question := by
  obtain ⟨question, chars, c, isMark, inQuestion⟩ := (t.node i).exists_question
  have index_eq : (t.node i).index = i := t.wellFormed.index_eq i i.2
  rw [index_eq] at chars
  unfold outlineLabel
  split
  · refine ⟨question ++ (" (v" ++ t.version ++ ", " ++ t.publishDate ++ ")").toList, ?_, c, isMark,
      List.mem_append_left _ inQuestion⟩
    simp [chars]
  · exact ⟨question, chars, c, isMark, inQuestion⟩

/-- The label of a node is the head of its own entry alone. -/
theorem own_of_head_eq {entry : Entry t.size}
    (same : head t.outlineLabel entry = t.outlineLabel i) : ∃ below, entry = own i below := by
  obtain ⟨question, chars, c, isMark, inQuestion⟩ := exists_question i
  have blankless (n : Nat) : ' ' ∉ Nat.toDigits 10 n := fun isChar =>
    absurd (Nat.isDigit_of_mem_toDigits (by decide) (by decide) isChar) (by decide)
  have apart {n : Nat} {rest : List Char}
      (same : '#' :: Nat.toDigits 10 n ++ ' ' :: rest = (t.outlineLabel i).toList) :
      Nat.toDigits 10 n = Nat.toDigits 10 i ∧ rest = question := by
    rw [chars] at same
    exact Text.append_cons_inj (blankless n) (blankless i) (List.cons.inj same).2
  have same := congrArg String.toList same
  cases entry with
  | own j below =>
    obtain ⟨question', chars', -⟩ := exists_question j
    have digits := (apart (chars'.symm.trans same)).1
    have index_eq : j.1 = i.1 := by
      rw [← Nat.ofDigitChars_ten_toDigits (n := j), digits, Nat.ofDigitChars_ten_toDigits]
    exact ⟨below, by rw [Fin.ext index_eq]⟩
  | shared j =>
    have remark : "(shared, shown above)".toList = question := by
      refine (apart (n := j) ?_).2
      rw [← same]
      simp [head]
    have free : ∀ c ∈ ['t', '=', '['], c ∉ "(shared, shown above)".toList := by simp
    exact absurd (remark ▸ inQuestion) (free c isMark)
  | omitted children =>
    rw [chars] at same
    simp [head] at same

/-- What the text shows has an entry of its own, where each label is on one line. -/
theorem mem_owned_of_shows (free : t.FreeOfBreaks) (shows : t.Shows i) : i ∈ t.outline.owned := by
  obtain ⟨before, lead, after, guide, start, text_eq⟩ := shows
  have nothing : IsGuide "" := by decide
  have starts (i : Fin t.size) : StartsPlain (t.outlineLabel i) := by
    obtain ⟨question, chars, -⟩ := exists_question i
    exact ⟨'#', by rw [chars]; rfl, by decide⟩
  have each : ∀ l ∈ t.outline.lines t.outlineLabel "" "", OneLine l := by
    intro l isLine
    obtain ⟨level, found, guide, -, isGuide, rfl⟩ := exists_at_of_mem_lines nothing nothing isLine
    exact isGuide.oneLine.append (oneLine_head free.oneLine_outlineLabel found)
  have isLine : lead ++ t.outlineLabel i ∈ t.outline.lines t.outlineLabel "" "" := by
    have label : OneLine (lead ++ t.outlineLabel i) :=
      guide.oneLine.append (free.oneLine_outlineLabel i)
    have text_eq : t.outlineText = before ++ (lead ++ t.outlineLabel i) ++ "\n" ++ after := by
      simp only [text_eq, String.append_assoc]
    exact Text.mem_of_join_eq each label start text_eq
  obtain ⟨level, found, guide', stands, isGuide, same⟩ :=
    exists_at_of_mem_lines nothing nothing isLine
  have label_eq := guide.cancel isGuide (starts i) (startsPlain_head starts found) same
  obtain ⟨below, rfl⟩ := own_of_head_eq label_eq.symm
  exact stands.mem_owned

/-- The nodes with an entry of their own are those that a path of at most as many nodes as an
outline has levels leads to, through opened nodes. Their labels are in the text, and no others are
where each label is on one line. Where a path leads to a node without an entry, another node on it
has its own entry at the last level. -/
theorem mem_owned_outline_iff (t : Tree) (i : Fin t.size) :
    (i ∈ t.outline.owned ↔ ∃ path, t.graph.Path t.root path i ∧ path.length ≤ outlineLevels ∧
        ∀ k ∈ path.dropLast, t.Opens k) ∧
      (i ∈ t.outline.owned → t.Shows i) ∧ (t.FreeOfBreaks → t.Shows i → i ∈ t.outline.owned) ∧
      ∀ path, t.graph.Path t.root path i → i ∈ t.outline.owned ∨
        ∃ k ∈ path.dropLast, t.Closes k := by
  refine ⟨⟨fun isOwned => ?_, fun led => ?_⟩, shows_of_mem_owned, mem_owned_of_shows,
    fun path leads => ?_⟩
  · obtain ⟨level, below, stands⟩ := exists_at_of_mem_owned isOwned
    obtain ⟨after, drawn⟩ := t.exists_drawn_outline
    obtain ⟨inLevels, path, leads, rfl, opened⟩ := drawn.path level i below stands
    exact ⟨path, leads, inLevels, opened⟩
  · obtain ⟨path, leads, -, opened⟩ := led
    exact mem_owned_of_opened leads root_mem_owned_outline opened
  · exact (mem_owned_or_closes leads root_mem_owned_outline).imp_left And.right

/-! ## A hidden node -/

/-- The nodes of a chain of 64 levels, the last of which is a child of the root as well and has a
child of its own. -/
def longWayNode (i : Fin 65) : Node :=
  if i = 0 then ⟨0, .root, none, none, [1, 63]⟩
  else if i.1 < 64 then ⟨i, .literal "a", none, none, [i + 1]⟩
  else ⟨i, .literal "b", none, some 7, []⟩

/-- A tree in which a node is first met at the last level of the outline, and then at the second. -/
def longWay : Tree where
  version := "1"
  publishDate := "d"
  nodes := Array.ofFn longWayNode
  wellFormed :=
    { rooted := by simp
      index_eq := by decide
      root_iff := by decide
      bounded := by decide
      acyclic := Graph.acyclic_of_ascending (by decide) }

theorem freeOfBreaks_longWay : longWay.FreeOfBreaks where
  version := by decide
  publishDate := by decide
  keys i key named := by
    have unnamed : ∀ i, (longWay.node i).key = none := by decide
    cases named.symm.trans (unnamed i)

/-- A path of three nodes leads to a node whose label is not in the text. -/
theorem outline_hides :
    ∃ (shared hidden : Fin longWay.size),
      longWay.graph.Path longWay.root [longWay.root, shared, hidden] hidden ∧
        ¬ longWay.Shows hidden := by
  have hides : (⟨64, by decide⟩ : Fin longWay.size) ∉ longWay.outline.owned := by decide +kernel
  refine ⟨⟨63, by decide⟩, ⟨64, by decide⟩, .down ?_ (.down ?_ (.here _)), fun shows => ?_⟩
  · unfold Graph.Child
    decide
  · unfold Graph.Child
    decide
  · exact hides (mem_owned_of_shows freeOfBreaks_longWay shows)

end Tree

end EvidenceTree
