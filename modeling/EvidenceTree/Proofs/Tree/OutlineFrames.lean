import EvidenceTree.Proofs.Tree.Outlines

/-!
# Drawing without a recursion

An outline can be drawn with a stack of frames in place of a recursion. A frame is a node whose
entry is being drawn: the number of its children that have been looked at, and the entries below it
that are finished. The height of the stack is the level of the innermost frame. A frame that is
finished becomes an entry below the next one outward, and the outermost is the outline.

* `Entry.Sketch.next?`: one step of a drawing.
* `Entry.draws_ofNode`: the frame of a node becomes the entry that the recursion gives it, and the
  frames outward of it are left as they were.
* `Tree.exists_draws_outline`: the drawing of a tree ends with its outline.
-/

namespace EvidenceTree

namespace Entry

variable {n : Nat} {g : Graph n} {limit levels next : Nat} {i c : Fin n} {shown : Vector Bool n}
  {leaves : List (Entry n)}

/-! ## Steps -/

/-- A node whose entry is being drawn: how many of its children have been looked at, and the entries
below it so far. -/
structure Frame (n : Nat) where
  node : Fin n
  next : Nat
  leaves : List (Entry n)

/-- A frame with one entry more below it, for as many more children that have been looked at. -/
def Frame.add (frame : Frame n) (looked : Nat) (entry : Entry n) : Frame n :=
  { frame with next := frame.next + looked, leaves := frame.leaves ++ [entry] }

/-- How far a drawing is: the nodes that are shown, the frames, the innermost first, and the outline
when it is finished. -/
structure Sketch (n : Nat) where
  shown : Vector Bool n
  frames : List (Frame n)
  drawn : Option (Entry n)

variable {above : List (Frame n)} {drawn : Option (Entry n)}

namespace Sketch

/-- A drawing from one node, before its first step. -/
def start (i : Fin n) : Sketch n :=
  ⟨(Vector.replicate n false).set i true i.2, [⟨i, 0, []⟩], none⟩

/-- A finished entry goes to the innermost of the frames that are left. -/
def deliver (shown : Vector Bool n) (above : List (Frame n)) (drawn : Option (Entry n))
    (entry : Entry n) : Sketch n :=
  match above with
  | [] => ⟨shown, [], some entry⟩
  | parent :: others => ⟨shown, parent.add 0 entry :: others, drawn⟩

/-- One step of a drawing of so many levels. It ends where no frame is left. -/
def next? (g : Graph n) (limit : Nat) (sketch : Sketch n) : Option (Sketch n) :=
  match sketch.frames with
  | [] => none
  | top :: above =>
    let children := g top.node
    if limit ≤ sketch.frames.length ∧ top.next = 0 ∧ children ≠ [] then
      some { sketch with frames := top.add children.length (omitted children.length) :: above }
    else
      match children[top.next]? with
      | some child =>
        if sketch.shown.get child then
          some { sketch with frames := top.add 1 (shared child) :: above }
        else
          some { sketch with
            shown := sketch.shown.set child true child.2
            frames := ⟨child, 0, []⟩ :: { top with next := top.next + 1 } :: above }
      | none => some (deliver sketch.shown above sketch.drawn (own top.node top.leaves))

end Sketch

/-- One drawing of so many levels comes out of another by steps. -/
abbrev Draws (g : Graph n) (limit : Nat) (sketch sketch' : Sketch n) : Prop :=
  Relation.ReflTransGen (fun s s' => s.next? g limit = some s') sketch sketch'

theorem next?_omit (shown : Vector Bool n) (leaves : List (Entry n)) (drawn : Option (Entry n))
    (last : limit ≤ above.length + 1) (someChild : g i ≠ []) :
    Sketch.next? g limit ⟨shown, ⟨i, 0, leaves⟩ :: above, drawn⟩ =
      some ⟨shown, ⟨i, (g i).length, leaves ++ [omitted (g i).length]⟩ :: above, drawn⟩ := by
  unfold Sketch.next?
  dsimp only
  rw [if_pos ⟨last, rfl, someChild⟩, Frame.add, Nat.zero_add]

/-- Above the last level, and once a child has been looked at, no children are left out. -/
theorem next?_of_child (shown : Vector Bool n) (leaves : List (Entry n))
    (drawn : Option (Entry n)) (open_ : ¬ limit ≤ above.length + 1)
    (child : (g i)[next]? = some c) :
    Sketch.next? g limit ⟨shown, ⟨i, next, leaves⟩ :: above, drawn⟩ =
      if IsShown shown c then
        some ⟨shown, ⟨i, next + 1, leaves ++ [shared c]⟩ :: above, drawn⟩
      else
        some ⟨shown.set c true c.2, ⟨c, 0, []⟩ :: ⟨i, next + 1, leaves⟩ :: above, drawn⟩ := by
  unfold Sketch.next?
  dsimp only
  rw [if_neg fun closed => open_ closed.1, child]
  rfl

theorem next?_of_end (limit : Nat) (shown : Vector Bool n) (leaves : List (Entry n))
    (above : List (Frame n)) (drawn : Option (Entry n)) (none : (g i)[next]? = none) :
    Sketch.next? g limit ⟨shown, ⟨i, next, leaves⟩ :: above, drawn⟩ =
      some (.deliver shown above drawn (own i leaves)) := by
  have noneLeft : ¬ (limit ≤ above.length + 1 ∧ next = 0 ∧ g i ≠ []) := by
    rintro ⟨-, rfl, someChild⟩
    exact someChild (List.eq_nil_of_length_eq_zero
      (Nat.le_zero.1 (List.getElem?_eq_none_iff.1 none)))
  unfold Sketch.next?
  dsimp only
  refine (if_neg noneLeft).trans ?_
  rw [none]

/-! ## Runs -/

/-- With so many levels below it, the frame of a node becomes an entry, and the frames outward of it
are left as they were. -/
def Becomes (g : Graph n) (limit levels : Nat) (i : Fin n) (shown : Vector Bool n)
    (found : Entry n × Vector Bool n) : Prop :=
  ∀ above drawn, above.length + 1 + levels = limit →
    Draws g limit ⟨shown, ⟨i, 0, []⟩ :: above, drawn⟩ (.deliver found.2 above drawn found.1)

/-- The first of the children that are left is the next one. -/
theorem next_of_drop {children rest : List (Fin n)} (left : children.drop next = c :: rest) :
    children[next]? = some c ∧ children.drop (next + 1) = rest := by
  constructor
  · have first : (children.drop next)[0]? = some c := by rw [left]; rfl
    rwa [List.getElem?_drop] at first
  · rw [← List.tail_drop, left]
    rfl

/-- The children that have not been looked at yet are entered one after the other, and then the
frame is finished. -/
theorem draws_ofChildren {enter : Fin n → Vector Bool n → Entry n × Vector Bool n}
    (each : ∀ c shown, Becomes g limit levels c shown (enter c shown))
    (inLevels : above.length + 1 + (levels + 1) = limit) (rest : List (Fin n))
    (shown : Vector Bool n) (leaves : List (Entry n)) (left : (g i).drop next = rest) :
    Draws g limit ⟨shown, ⟨i, next, leaves⟩ :: above, drawn⟩
      (.deliver (ofChildren enter rest shown).2 above drawn
        (own i (leaves ++ (ofChildren enter rest shown).1))) := by
  have open_ : ¬ limit ≤ above.length + 1 := by omega
  induction rest, shown using ofChildren_induction generalizing next leaves with
  | none shown =>
    have none : (g i)[next]? = none := List.getElem?_eq_none (List.drop_eq_nil_iff.1 left)
    have finished := next?_of_end limit shown leaves above drawn none
    rw [List.append_nil]
    exact .single finished
  | @refer c rest shown _ _ known ih =>
    obtain ⟨child, others⟩ := next_of_drop left
    have step := next?_of_child shown leaves drawn open_ child
    rw [if_pos known] at step
    have later := ih (leaves ++ [shared c]) others
    rw [List.append_assoc] at later
    exact .head step later
  | @own c rest shown _ _ new ih =>
    obtain ⟨child, others⟩ := next_of_drop left
    have step := next?_of_child shown leaves drawn open_ child
    rw [if_neg new] at step
    have entered := each c (shown.set c true c.2) (⟨i, next + 1, leaves⟩ :: above) drawn
      (by rw [List.length_cons]; omega)
    have later := ih (leaves ++ [(enter c (shown.set c true c.2)).1]) others
    rw [List.append_assoc] at later
    exact .head step (.trans entered later)

/-- The frame of a node becomes the entry that the recursion gives it. -/
theorem draws_ofNode (g : Graph n) (limit levels : Nat) (i : Fin n) (shown : Vector Bool n) :
    Becomes g limit levels i shown (ofNode g levels i shown) := by
  induction levels generalizing i shown with
  | zero =>
    intro above drawn last
    unfold ofNode
    by_cases noChild : g i = []
    · have none : (g i)[0]? = none := by rw [noChild]; rfl
      rw [noChild]
      exact .single (next?_of_end limit shown [] above drawn none)
    · have omits := next?_omit shown [] drawn
        (show limit ≤ above.length + 1 by omega) noChild
      rw [if_neg (mt List.isEmpty_iff.1 noChild)]
      exact .head omits
        (.single (next?_of_end limit _ _ above drawn (List.getElem?_eq_none (Nat.le_refl _))))
  | succ levels ih =>
    intro above drawn inLevels
    unfold ofNode
    exact draws_ofChildren ih inLevels (g i) shown [] rfl

end Entry

/-- The drawing of a tree ends with its outline. -/
theorem Tree.exists_draws_outline (t : Tree) :
    ∃ shown, Entry.Draws t.graph outlineLevels (.start t.root) ⟨shown, [], some t.outline⟩ :=
  ⟨_, Entry.draws_ofNode t.graph outlineLevels (outlineLevels - 1) t.root _ [] none rfl⟩

end EvidenceTree
