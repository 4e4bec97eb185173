import EvidenceTree.Proofs.Json.Spellings

/-!
# Lists and objects as they are written

A list is written as items with commas between them, and an object as members. What is read of
either is what is read of its parts, each alone, and every list and object that is read is written
so.

* `Json.takes_list_iff`: the items of a list, one by one.
* `Json.takes_members_iff`: the members of an object, one after the other.
* `Json.isLocal_value`: what is read of a value, at any depth.
-/

namespace EvidenceTree.Json

open Text (Read Rest Symbol)

variable {α σ : Type} {s rest left blank : List Symbol} {symbol : Symbol} {x : α} {xs : List α}
  {item : (s : List Symbol) → Except Fault (Read α s)}

theorem exists_of_mem_forall₂ {β γ : Type} {related : β → γ → Prop} {bs : List β} {cs : List γ}
    {c : γ} (all : List.Forall₂ related bs cs) (inList : c ∈ cs) : ∃ b ∈ bs, related b c := by
  induction all with
  | nil => cases inList
  | cons first _ ih =>
    rcases List.mem_cons.1 inList with rfl | inRest
    · exact ⟨_, List.mem_cons_self, first⟩
    · obtain ⟨b, isB, holds⟩ := ih inRest
      exact ⟨b, List.mem_cons_of_mem _ isB, holds⟩

/-- Texts with a comma between them. -/
def joined : List (List Symbol) → List Symbol
  | [] => []
  | [part] => part
  | part :: next :: rest => part ++ some ',' :: joined (next :: rest)

/-! ## Items -/

/-- An item of a list as it is written, and the spaces behind it. -/
structure Item (β : Type) where
  content : β
  after : List Symbol

/-- The same item, written out. -/
def Item.map {β γ : Type} (write : β → γ) (i : Item β) : Item γ := ⟨write i.content, i.after⟩

/-- The symbols of an item. -/
def Item.symbols (i : Item (List Symbol)) : List Symbol := i.content ++ i.after

/-- A list behind its opening bracket. -/
def listSymbols (items : List (Item (List Symbol))) (blank : List Symbol) : List Symbol :=
  joined (items.map Item.symbols) ++ (blank ++ [some ']'])

/-- An item is written as what a reader reads of it. -/
structure Item.Holds (item : (s : List Symbol) → Except Fault (Read α s)) (i : Item (List Symbol))
    (x : α) : Prop where
  content : Spells item i.content x
  after : IsBlank i.after

/-- A reader that no closing bracket is an item of. -/
def OpensItem (item : (s : List Symbol) → Except Fault (Read α s)) : Prop :=
  ∀ ⦃s x rest⦄, Takes (item s) x rest → ∃ symbol behind, Finds s symbol behind ∧ symbol ≠ some ']'

theorem takes_afterItem_done_iff : Takes (afterItem s) .done rest ↔ Finds s (some ']') rest := by
  unfold afterItem Finds
  constructor
  · rintro ⟨_, ran⟩
    split at ran
    · cases ran
    · rename_i found
      cases ran
      exact ⟨_, found⟩
    · split at ran <;> cases ran
    · cases ran
  · rintro ⟨shorter, found⟩
    rw [found]
    exact ⟨shorter, rfl⟩

theorem takes_afterItem_more_iff : Takes (afterItem s) .more rest ↔
    Finds s (some ',') rest ∧ ∃ symbol behind, Finds rest symbol behind ∧ symbol ≠ some ']' := by
  unfold afterItem Finds
  constructor
  · rintro ⟨_, ran⟩
    split at ran
    · cases ran
    · cases ran
    · rename_i found
      split at ran
      · cases ran
      · cases ran
      · rename_i read noEnd nextFound
        cases ran
        exact ⟨⟨_, found⟩, read.item, read.rest, ⟨read.shorter, nextFound⟩,
          fun same => noEnd read.rest read.shorter (same ▸ rfl)⟩
    · cases ran
  · rintro ⟨⟨shorter, found⟩, symbol, behind, ⟨further, nextFound⟩, noEnd⟩
    refine ⟨shorter, ?_⟩
    simp only [found]
    split
    · rename_i none
      cases nextFound.symm.trans none
    · rename_i ended
      cases nextFound.symm.trans ended
      exact absurd rfl noEnd
    · rfl

theorem takes_itemsFrom_iff : Takes (itemsFrom item s) xs rest ↔
    ∃ x left, Takes (item s) x left ∧ ((Finds left (some ']') rest ∧ xs = [x]) ∨
      ∃ behind others, Takes (afterItem left) .more behind ∧
        Takes (itemsFrom item behind) others rest ∧ xs = x :: others) := by
  constructor
  · rintro ⟨_, ran⟩
    rw [itemsFrom] at ran
    obtain ⟨first, firstRead, ran⟩ := bind_eq_ok_iff.1 ran
    obtain ⟨after, afterRead, ran⟩ := bind_eq_ok_iff.1 ran
    refine ⟨first.item, first.rest, ⟨first.shorter, firstRead⟩, ?_⟩
    obtain ⟨continuation, behind, shorter⟩ := after
    cases continuation with
    | done =>
      cases ran
      exact .inl ⟨takes_afterItem_done_iff.1 ⟨shorter, afterRead⟩, rfl⟩
    | more =>
      obtain ⟨others, othersRead, ⟨⟩⟩ := bind_eq_ok_iff.1 ran
      exact .inr ⟨behind, others.item, ⟨shorter, afterRead⟩, ⟨others.shorter, othersRead⟩, rfl⟩
  · rintro ⟨x, left, ⟨_, firstRead⟩, ⟨ended, rfl⟩ |
      ⟨behind, others, ⟨_, afterRead⟩, ⟨_, othersRead⟩, rfl⟩⟩
    · obtain ⟨_, afterRead⟩ := takes_afterItem_done_iff.2 ended
      rw [itemsFrom]
      exact ⟨_, bind_eq_ok_iff.2 ⟨_, firstRead, bind_eq_ok_iff.2 ⟨_, afterRead, rfl⟩⟩⟩
    · rw [itemsFrom]
      exact ⟨_, bind_eq_ok_iff.2 ⟨_, firstRead, bind_eq_ok_iff.2 ⟨_, afterRead,
        bind_eq_ok_iff.2 ⟨_, othersRead, rfl⟩⟩⟩⟩

theorem takes_list_iff_itemsFrom : Takes (list item s) xs rest ↔
    (Finds s (some ']') rest ∧ xs = []) ∨
      ((∃ symbol behind, Finds s symbol behind ∧ symbol ≠ some ']') ∧
        Takes (itemsFrom item s) xs rest) := by
  unfold list Finds
  constructor
  · rintro ⟨_, ran⟩
    split at ran
    · cases ran
    · rename_i found
      cases ran
      exact .inl ⟨⟨_, found⟩, rfl⟩
    · rename_i read noEnd found
      exact .inr ⟨⟨read.item, read.rest, ⟨read.shorter, found⟩,
        fun same => noEnd read.rest read.shorter (same ▸ rfl)⟩, _, ran⟩
  · rintro (⟨⟨shorter, found⟩, rfl⟩ | ⟨⟨symbol, behind, ⟨shorter, found⟩, noEnd⟩, takes⟩)
    · rw [found]
      exact ⟨shorter, rfl⟩
    · split
      · rename_i none
        cases found.symm.trans none
      · rename_i ended
        cases found.symm.trans ended
        exact absurd rfl noEnd
      · exact takes

theorem IsBlank.append {blank' : List Symbol} (isBlank : IsBlank blank)
    (isBlank' : IsBlank blank') : IsBlank (blank ++ blank') := fun symbol inEither =>
  (List.mem_append.1 inEither).elim (isBlank symbol) (isBlank' symbol)

theorem endsNumeral_separator (isBlank : IsBlank blank) {c : Char}
    (mark : c = ',' ∨ c = ']' ∨ c = '\x7d') (rest : List Symbol) :
    EndsNumeral (blank ++ some c :: rest) := by
  refine endsNumeral_append isBlank ?_
  rcases mark with rfl | rfl | rfl <;> exact endsNumeral_cons rfl (by decide) rest

theorem Finds.endsNumeral {c : Char} (finds : Finds s (some c) rest)
    (mark : c = ',' ∨ c = ']' ∨ c = '\x7d') : EndsNumeral s := by
  obtain ⟨-, blank, isBlank, rfl⟩ := finds_iff.1 finds
  exact endsNumeral_separator isBlank mark rest

/-- Every list that is read from its first item on is written as items, and is read as they are. -/
theorem takes_itemsFrom (isLocal : IsLocal EndsNumeral item)
    (takes : Takes (itemsFrom item s) xs rest) :
    ∃ i items blank, IsBlank blank ∧ s = listSymbols (i :: items) blank ++ rest ∧
      List.Forall₂ (Item.Holds item) (i :: items) xs := by
  induction xs generalizing s with
  | nil =>
    obtain ⟨_, _, -, ⟨-, ⟨⟩⟩ | ⟨_, _, -, -, ⟨⟩⟩⟩ := takes_itemsFrom_iff.1 takes
  | cons x xs ih =>
    obtain ⟨_, left, first, continued⟩ := takes_itemsFrom_iff.1 takes
    obtain ⟨text, rfl, reads⟩ := isLocal first
    have spells := reads.spells endsNumeral_nil
    rcases continued with ⟨ended, ⟨⟩⟩ | ⟨behind, others, more, takesOthers, ⟨⟩⟩
    · obtain ⟨-, blank, isBlank, rfl⟩ := finds_iff.1 ended
      refine ⟨⟨text, blank⟩, [], [], nofun, ?_, .cons ⟨spells, isBlank⟩ .nil⟩
      simp [listSymbols, joined, Item.symbols]
    · obtain ⟨comma, -⟩ := takes_afterItem_more_iff.1 more
      obtain ⟨-, after, isBlank, rfl⟩ := finds_iff.1 comma
      obtain ⟨i, items, blank, isBlank', rfl, all⟩ := ih takesOthers
      refine ⟨⟨text, after⟩, i :: items, blank, isBlank', ?_, .cons ⟨spells, isBlank⟩ all⟩
      simp [listSymbols, joined, Item.symbols]

/-- Items that are written are read from the first on. -/
theorem itemsFrom_of_holds (isLocal : IsLocal EndsNumeral item) (opens : OpensItem item)
    {i : Item (List Symbol)} {items : List (Item (List Symbol))} (isBlank : IsBlank blank)
    (all : List.Forall₂ (Item.Holds item) (i :: items) xs) (rest : List Symbol) :
    Takes (itemsFrom item (listSymbols (i :: items) blank ++ rest)) xs rest := by
  induction items generalizing i xs with
  | nil =>
    rcases all with - | ⟨holds, ⟨⟩⟩
    have first := isLocal.reads holds.content _
      (endsNumeral_separator (holds.after.append isBlank) (.inr (.inl rfl)) rest)
    have split : listSymbols [i] blank ++ rest =
        i.content ++ ((i.after ++ blank) ++ some ']' :: rest) := by
      simp [listSymbols, joined, Item.symbols]
    rw [split]
    exact takes_itemsFrom_iff.2 ⟨_, _, first,
      .inl ⟨finds_append (holds.after.append isBlank) rfl rest, rfl⟩⟩
  | cons i' items ih =>
    rcases all with - | ⟨holds, all⟩
    have others := ih all
    have first := isLocal.reads holds.content _
      (endsNumeral_separator holds.after (.inl rfl) (listSymbols (i' :: items) blank ++ rest))
    have split : listSymbols (i :: i' :: items) blank ++ rest =
        i.content ++ (i.after ++ some ',' :: (listSymbols (i' :: items) blank ++ rest)) := by
      simp [listSymbols, joined, Item.symbols]
    -- the next item is there, so its reader says that no bracket closes the list in front of it
    obtain ⟨_, _, next, -⟩ := takes_itemsFrom_iff.1 others
    rw [split]
    exact takes_itemsFrom_iff.2 ⟨_, _, first, .inr ⟨_, _, takes_afterItem_more_iff.2
      ⟨finds_append holds.after rfl _, opens next⟩, others, rfl⟩⟩

/-- A list is read exactly where it is written as items, each of which is read alone. -/
theorem takes_list_iff (isLocal : IsLocal EndsNumeral item) (opens : OpensItem item) :
    Takes (list item s) xs rest ↔ ∃ items blank, IsBlank blank ∧
      s = listSymbols items blank ++ rest ∧ List.Forall₂ (Item.Holds item) items xs := by
  rw [takes_list_iff_itemsFrom]
  constructor
  · rintro (⟨ended, rfl⟩ | ⟨-, takes⟩)
    · obtain ⟨-, blank, isBlank, rfl⟩ := finds_iff.1 ended
      exact ⟨[], blank, isBlank, by simp [listSymbols, joined], .nil⟩
    · obtain ⟨i, items, blank, isBlank, split, all⟩ := takes_itemsFrom isLocal takes
      exact ⟨i :: items, blank, isBlank, split, all⟩
  · rintro ⟨items, blank, isBlank, rfl, all⟩
    cases items with
    | nil =>
      rcases all with - | -
      have split : listSymbols [] blank ++ rest = blank ++ some ']' :: rest := by
        simp [listSymbols, joined]
      rw [split]
      exact .inl ⟨finds_append isBlank rfl rest, rfl⟩
    | cons i items =>
      have takes := itemsFrom_of_holds isLocal opens isBlank all rest
      obtain ⟨_, _, first, -⟩ := takes_itemsFrom_iff.1 takes
      exact .inr ⟨opens first, takes⟩

theorem isLocal_list (isLocal : IsLocal EndsNumeral item) (opens : OpensItem item) :
    IsLocal Anything (list item) := by
  intro s xs rest takes
  obtain ⟨items, blank, isBlank, split, all⟩ := (takes_list_iff isLocal opens).1 takes
  exact ⟨_, split, fun rest _ => (takes_list_iff isLocal opens).2 ⟨items, blank, isBlank, rfl, all⟩⟩

/-! ## Members -/

/-- A member of an object as it is written: its name behind the opening quote, and what stands
behind the colon, with the spaces in front, between and behind. -/
structure Member (β : Type) where
  before : List Symbol
  name : List Symbol
  between : List Symbol
  content : β
  after : List Symbol

/-- The same member, its content written out. -/
def Member.map {β γ : Type} (write : β → γ) (m : Member β) : Member γ :=
  ⟨m.before, m.name, m.between, write m.content, m.after⟩

/-- The symbols of a member. -/
def Member.symbols (m : Member (List Symbol)) : List Symbol :=
  m.before ++ some '"' :: (m.name ++ (m.between ++ some ':' :: (m.content ++ m.after)))

/-- An object behind its opening brace. -/
def objectSymbols (members : List (Member (List Symbol))) (blank : List Symbol) : List Symbol :=
  joined (members.map Member.symbols) ++ (blank ++ [some '\x7d'])

/-- A member is written under a name, with nothing but spaces around its parts. -/
structure Member.Named {β : Type} (m : Member β) (name : String) : Prop where
  name : Spells string m.name name
  before : IsBlank m.before
  between : IsBlank m.between
  after : IsBlank m.after

variable {reader : MemberReader σ} {known next final : σ}

/-- Members that a reader reads one after the other, each alone. -/
inductive ReadsMembers (reader : MemberReader σ) : σ → List (Member (List Symbol)) → σ → Prop
  | nil {known : σ} : ReadsMembers reader known [] known
  | cons {known next final : σ} {m : Member (List Symbol)} {members : List (Member (List Symbol))}
      {name : String} : m.Named name → reader.allow known name = .ok () →
      Spells (reader.take known name) m.content next → ReadsMembers reader next members final →
      ReadsMembers reader known (m :: members) final

theorem takes_member_iff : Takes (member reader known s) next rest ↔
    ∃ name left behind, Takes (string s) name left ∧ reader.allow known name = .ok () ∧
      Finds left (some ':') behind ∧ Takes (reader.take known name behind) next rest := by
  unfold Finds
  constructor
  · rintro ⟨_, ran⟩
    obtain ⟨name, nameRead, ran⟩ := bind_eq_ok_iff.1 ran
    obtain ⟨⟨⟩, allowed, ran⟩ := bind_eq_ok_iff.1 ran
    split at ran
    · cases ran
    · rename_i behind shorter found
      obtain ⟨taken, takenRead, ⟨⟩⟩ := map_eq_ok_iff.1 ran
      exact ⟨name.item, name.rest, behind, ⟨name.shorter, nameRead⟩, allowed, ⟨shorter, found⟩,
        taken.shorter, takenRead⟩
    · cases ran
  · rintro ⟨name, left, behind, ⟨_, nameRead⟩, allowed, ⟨_, found⟩, ⟨_, takenRead⟩⟩
    refine ⟨?_, bind_eq_ok_iff.2 ⟨_, nameRead, bind_eq_ok_iff.2 ⟨(), allowed, ?_⟩⟩⟩
    · omega
    · dsimp only
      rw [found]
      exact map_eq_ok_iff.2 ⟨_, takenRead, rfl⟩

theorem takes_afterMember_done_iff :
    Takes (afterMember s) .done rest ↔ Finds s (some '\x7d') rest := by
  unfold afterMember Finds
  constructor
  · rintro ⟨_, ran⟩
    split at ran
    · cases ran
    · rename_i found
      cases ran
      exact ⟨_, found⟩
    · split at ran <;> cases ran
    · cases ran
  · rintro ⟨shorter, found⟩
    rw [found]
    exact ⟨shorter, rfl⟩

theorem takes_afterMember_more_iff : Takes (afterMember s) .more rest ↔
    ∃ behind, Finds s (some ',') behind ∧ Finds behind (some '"') rest := by
  unfold afterMember Finds
  constructor
  · rintro ⟨_, ran⟩
    split at ran
    · cases ran
    · cases ran
    · rename_i behind shorter found
      split at ran
      · cases ran
      · rename_i quoteFound
        cases ran
        exact ⟨behind, ⟨shorter, found⟩, _, quoteFound⟩
      · cases ran
      · cases ran
    · cases ran
  · rintro ⟨behind, ⟨shorter, found⟩, further, quoteFound⟩
    refine ⟨Nat.lt_trans further shorter, ?_⟩
    simp only [found, quoteFound]

theorem takes_membersFrom_iff : Takes (membersFrom reader known s) final rest ↔
    ∃ next left, Takes (member reader known s) next left ∧
      ((Finds left (some '\x7d') rest ∧ final = next) ∨
        ∃ behind, Takes (afterMember left) .more behind ∧
          Takes (membersFrom reader next behind) final rest) := by
  constructor
  · rintro ⟨_, ran⟩
    rw [membersFrom] at ran
    obtain ⟨first, firstRead, ran⟩ := bind_eq_ok_iff.1 ran
    obtain ⟨after, afterRead, ran⟩ := bind_eq_ok_iff.1 ran
    refine ⟨first.item, first.rest, ⟨first.shorter, firstRead⟩, ?_⟩
    obtain ⟨continuation, behind, shorter⟩ := after
    cases continuation with
    | done =>
      cases ran
      exact .inl ⟨takes_afterMember_done_iff.1 ⟨shorter, afterRead⟩, rfl⟩
    | more =>
      obtain ⟨all, allRead, ⟨⟩⟩ := map_eq_ok_iff.1 ran
      exact .inr ⟨behind, ⟨shorter, afterRead⟩, all.shorter, allRead⟩
  · rintro ⟨next, left, ⟨_, firstRead⟩, ⟨ended, rfl⟩ |
      ⟨behind, ⟨_, afterRead⟩, ⟨_, allRead⟩⟩⟩
    · obtain ⟨_, afterRead⟩ := takes_afterMember_done_iff.2 ended
      rw [membersFrom]
      exact ⟨_, bind_eq_ok_iff.2 ⟨_, firstRead, bind_eq_ok_iff.2 ⟨_, afterRead, rfl⟩⟩⟩
    · rw [membersFrom]
      exact ⟨_, bind_eq_ok_iff.2 ⟨_, firstRead, bind_eq_ok_iff.2 ⟨_, afterRead,
        map_eq_ok_iff.2 ⟨_, allRead, rfl⟩⟩⟩⟩

theorem takes_members_iff_membersFrom : Takes (members reader known s) final rest ↔
    (Finds s (some '\x7d') rest ∧ final = known) ∨
      ∃ behind, Finds s (some '"') behind ∧ Takes (membersFrom reader known behind) final rest := by
  unfold members Finds
  constructor
  · rintro ⟨_, ran⟩
    split at ran
    · cases ran
    · rename_i found
      cases ran
      exact .inl ⟨⟨_, found⟩, rfl⟩
    · rename_i behind shorter found
      obtain ⟨all, allRead, ⟨⟩⟩ := map_eq_ok_iff.1 ran
      exact .inr ⟨behind, ⟨shorter, found⟩, all.shorter, allRead⟩
    · cases ran
  · rintro (⟨⟨shorter, found⟩, rfl⟩ | ⟨behind, ⟨_, found⟩, ⟨_, allRead⟩⟩)
    · rw [found]
      exact ⟨shorter, rfl⟩
    · rw [found]
      exact ⟨_, map_eq_ok_iff.2 ⟨_, allRead, rfl⟩⟩

section

variable (isLocal : ∀ known name, IsLocal EndsNumeral (reader.take known name))

include isLocal

/-- Every member that is read is written as one, and leaves what follows its value. -/
theorem exists_of_takes_member {before : List Symbol} (isBlank : IsBlank before)
    (takes : Takes (member reader known s) next left) :
    ∃ name between content, (∀ after, IsBlank after → ∃ named,
        (⟨before, name, between, content, after⟩ : Member (List Symbol)).Named named ∧
          reader.allow known named = .ok () ∧ Spells (reader.take known named) content next) ∧
      s = name ++ (between ++ some ':' :: (content ++ left)) := by
  obtain ⟨named, behindName, behindColon, nameRead, allowed, colon, taken⟩ :=
    takes_member_iff.1 takes
  obtain ⟨name, rfl, readsName⟩ := isLocal_string nameRead
  obtain ⟨-, between, isBlank', rfl⟩ := finds_iff.1 colon
  obtain ⟨content, rfl, reads⟩ := isLocal known named taken
  exact ⟨name, between, content, fun after isBlank'' => ⟨named,
    ⟨readsName.spells trivial, isBlank, isBlank', isBlank''⟩, allowed,
    reads.spells endsNumeral_nil⟩, rfl⟩

/-- Every object that is read from its first member on is written as members. -/
theorem takes_membersFrom {before : List Symbol} (isBlank : IsBlank before)
    (takes : Takes (membersFrom reader known s) final rest) :
    ∃ m members blank, IsBlank blank ∧
      before ++ some '"' :: s = objectSymbols (m :: members) blank ++ rest ∧
        ReadsMembers reader known (m :: members) final := by
  induction size : s.length using Nat.strong_induction_on generalizing s known before with
  | h size ih =>
    subst size
    obtain ⟨next, left, first, continued⟩ := takes_membersFrom_iff.1 takes
    have shorter : left.length < s.length := first.choose
    obtain ⟨name, between, content, written, split⟩ := exists_of_takes_member isLocal isBlank first
    rcases continued with ⟨ended, rfl⟩ | ⟨behind, more, others⟩
    · obtain ⟨-, after, isBlank', rfl⟩ := finds_iff.1 ended
      obtain ⟨named, isNamed, allowed, spells⟩ := written after isBlank'
      refine ⟨_, [], [], nofun, ?_, .cons isNamed allowed spells .nil⟩
      simp [split, objectSymbols, joined, Member.symbols]
    · have further : behind.length < left.length := more.choose
      obtain ⟨_, comma, quote⟩ := takes_afterMember_more_iff.1 more
      obtain ⟨-, after, isBlank', rfl⟩ := finds_iff.1 comma
      obtain ⟨-, before', isBlank'', rfl⟩ := finds_iff.1 quote
      obtain ⟨named, isNamed, allowed, spells⟩ := written after isBlank'
      obtain ⟨m, members, blank, isBlank, split', reads⟩ :=
        ih _ (Nat.lt_trans further shorter) isBlank'' others rfl
      refine ⟨_, m :: members, blank, isBlank, ?_, .cons isNamed allowed spells reads⟩
      rw [split, split']
      simp [objectSymbols, joined, Member.symbols]

/-- A member that is written is read, up to the spaces behind it. -/
theorem takes_member_of_named {m : Member (List Symbol)} {name : String} (named : m.Named name)
    (allowed : reader.allow known name = .ok ())
    (spells : Spells (reader.take known name) m.content next) (ends : EndsNumeral left) :
    Takes (member reader known (m.name ++ (m.between ++ some ':' :: (m.content ++ left))))
      next left :=
  takes_member_iff.2 ⟨name, _, _, isLocal_string.reads named.name _ trivial, allowed,
    finds_append named.between rfl _, (isLocal known name).reads spells left ends⟩

/-- Members that are written are read from the first on. -/
theorem membersFrom_of_reads {m : Member (List Symbol)} {members : List (Member (List Symbol))}
    (isBlank : IsBlank blank) (reads : ReadsMembers reader known (m :: members) final)
    (rest : List Symbol) :
    ∃ behind, objectSymbols (m :: members) blank ++ rest = m.before ++ some '"' :: behind ∧
      Takes (membersFrom reader known behind) final rest := by
  induction members generalizing m known with
  | nil =>
    rcases reads with - | ⟨named, allowed, spells, ⟨⟩⟩
    have isBlank' := named.after.append isBlank
    refine ⟨m.name ++ (m.between ++ some ':' :: (m.content ++
      ((m.after ++ blank) ++ some '\x7d' :: rest))), ?_, ?_⟩
    · simp [objectSymbols, joined, Member.symbols]
    · exact takes_membersFrom_iff.2 ⟨_, _, takes_member_of_named isLocal named allowed spells
        (endsNumeral_separator isBlank' (.inr (.inr rfl)) rest),
        .inl ⟨finds_append isBlank' rfl rest, rfl⟩⟩
  | cons m' members ih =>
    rcases reads with - | ⟨named, allowed, spells, reads⟩
    obtain ⟨behind, split, others⟩ := ih reads
    have named' : IsBlank m'.before := by
      rcases reads with - | ⟨named', -, -, -⟩
      exact named'.before
    refine ⟨m.name ++ (m.between ++ some ':' :: (m.content ++
      (m.after ++ some ',' :: (m'.before ++ some '"' :: behind)))), ?_, ?_⟩
    · rw [← split]
      simp [objectSymbols, joined, Member.symbols]
    · exact takes_membersFrom_iff.2 ⟨_, _, takes_member_of_named isLocal named allowed spells
        (endsNumeral_separator named.after (.inl rfl) _), .inr ⟨_, takes_afterMember_more_iff.2
          ⟨_, finds_append named.after rfl _, finds_append named' rfl _⟩, others⟩⟩

/-- An object is read exactly where it is written as members, and what is read is what they add one
after the other. -/
theorem takes_members_iff : Takes (members reader known s) final rest ↔
    ∃ members blank, IsBlank blank ∧ s = objectSymbols members blank ++ rest ∧
      ReadsMembers reader known members final := by
  rw [takes_members_iff_membersFrom]
  constructor
  · rintro (⟨ended, rfl⟩ | ⟨behind, quote, takes⟩)
    · obtain ⟨-, blank, isBlank, rfl⟩ := finds_iff.1 ended
      exact ⟨[], blank, isBlank, by simp [objectSymbols, joined], .nil⟩
    · obtain ⟨-, before, isBlank, rfl⟩ := finds_iff.1 quote
      obtain ⟨m, members, blank, isBlank, split, reads⟩ := takes_membersFrom isLocal isBlank takes
      exact ⟨m :: members, blank, isBlank, split, reads⟩
  · rintro ⟨members, blank, isBlank, rfl, reads⟩
    cases members with
    | nil =>
      rcases reads with - | -
      have split : objectSymbols [] blank ++ rest = blank ++ some '\x7d' :: rest := by
        simp [objectSymbols, joined]
      rw [split]
      exact .inl ⟨finds_append isBlank rfl rest, rfl⟩
    | cons m members =>
      have isBlank' : IsBlank m.before := by
        rcases reads with - | ⟨named, -, -, -⟩
        exact named.before
      obtain ⟨behind, split, takes⟩ := membersFrom_of_reads isLocal isBlank reads rest
      rw [split]
      exact .inr ⟨behind, finds_append isBlank' rfl behind, takes⟩

theorem isLocal_members (known : σ) : IsLocal Anything (members reader known) := by
  intro s final rest takes
  obtain ⟨members, blank, isBlank, split, reads⟩ := (takes_members_iff isLocal).1 takes
  exact ⟨_, split, fun rest _ =>
    (takes_members_iff isLocal).2 ⟨members, blank, isBlank, rfl, reads⟩⟩

end

/-! ## Members that are kept -/

section

variable {nested : (s : List Symbol) → Except Fault (Read Value s)} {assoc kept : Assoc Value}
  {members : List (Member (List Symbol))}

theorem takes_keepMember_iff {name : String} :
    Takes ((keepMember nested).take assoc name s) kept rest ↔
      ∃ v, Takes (nested s) v rest ∧ Assoc.insert name v assoc = kept := takes_item_map_iff

theorem isLocal_keepMember (isLocal : IsLocal EndsNumeral nested) (assoc : Assoc Value)
    (name : String) : IsLocal EndsNumeral ((keepMember nested).take assoc name) :=
  isLocal.map fun _ _ _ => takes_keepMember_iff

/-- A member is written as a name and a value. -/
structure Member.Holds (item : (s : List Symbol) → Except Fault (Read α s))
    (m : Member (List Symbol)) (pair : String × α) : Prop where
  named : m.Named pair.1
  content : Spells item m.content pair.2

/-- The values of members are kept under their names, the last one of a name. -/
theorem readsMembers_keepMember_iff : ReadsMembers (keepMember nested) assoc members kept ↔
    ∃ pairs, List.Forall₂ (Member.Holds nested) members pairs ∧
      kept = pairs.foldl (fun assoc pair => Assoc.insert pair.1 pair.2 assoc) assoc := by
  constructor
  · intro reads
    induction reads with
    | nil => exact ⟨[], .nil, rfl⟩
    | cons named _ taken _ ih =>
      obtain ⟨v, spells, rfl⟩ := takes_keepMember_iff.1 taken
      obtain ⟨pairs, all, rfl⟩ := ih
      exact ⟨(_, v) :: pairs, .cons ⟨named, spells⟩ all, rfl⟩
  · rintro ⟨pairs, all, rfl⟩
    induction all generalizing assoc with
    | nil => exact .nil
    | cons holds _ ih =>
      exact .cons holds.named rfl (takes_keepMember_iff.2 ⟨_, holds.content, rfl⟩) ih

end

/-! ## Values -/

variable {nested : NestedReader} {v : Value}

/-- What is read of a value that starts with a symbol. -/
inductive Begins (nested : NestedReader) (rest : List Symbol) : Symbol → List Symbol → Value → Prop
  | null : Begins nested rest (some 'n') (['u', 'l', 'l'].map some ++ rest) .null
  | true : Begins nested rest (some 't') (['r', 'u', 'e'].map some ++ rest) (.bool true)
  | false : Begins nested rest (some 'f') (['a', 'l', 's', 'e'].map some ++ rest) (.bool false)
  | string {behind : List Symbol} {text : String} : Takes (string behind) text rest →
      Begins nested rest (some '"') behind (.string text)
  | list {inner : (s : List Symbol) → Except Fault (Read Value s)} {behind : List Symbol}
      {items : List Value} : nested = some inner → Takes (list inner behind) items rest →
      Begins nested rest (some '[') behind (.array items)
  | object {inner : (s : List Symbol) → Except Fault (Read Value s)} {behind : List Symbol}
      {kept : Assoc Value} : nested = some inner →
      Takes (members (keepMember inner) [] behind) kept rest →
      Begins nested rest (some '\x7b') behind (.object kept)
  | negative {behind : List Symbol} {n : Number} : Takes (number true behind) n rest →
      Begins nested rest (some '-') behind (.number n)
  | digit {c : Char} {behind : List Symbol} {n : Number} : c.isDigit = true →
      Takes (number false (some c :: behind)) n rest →
      Begins nested rest (some c) behind (.number n)

theorem takes_container_iff {isList : Bool} : Takes (container nested isList s) v rest ↔
    ∃ inner, nested = some inner ∧ if isList then
      ∃ items, Takes (list inner s) items rest ∧ Value.array items = v
    else ∃ kept, Takes (members (keepMember inner) [] s) kept rest ∧ Value.object kept = v := by
  cases nested with
  | none => exact ⟨nofun, nofun⟩
  | some inner =>
    simp only [container, Option.some.injEq, exists_eq_left']
    split
    · exact takes_item_map_iff
    · exact takes_item_map_iff

/-- A value is read by what it starts with. -/
theorem takes_valueWith_iff : Takes (valueWith nested s) v rest ↔
    ∃ symbol behind, Finds s symbol behind ∧ Begins nested rest symbol behind v := by
  unfold valueWith Finds
  constructor
  · intro takes
    split at takes
    · obtain ⟨_, ⟨⟩⟩ := takes
    · rename_i symbol behind shorter found
      refine ⟨symbol, behind, ⟨shorter, found⟩, ?_⟩
      split at takes
      · obtain ⟨rfl, rfl⟩ := takes_word_iff.1 takes
        exact .null
      · obtain ⟨rfl, rfl⟩ := takes_word_iff.1 takes
        exact .true
      · obtain ⟨rfl, rfl⟩ := takes_word_iff.1 takes
        exact .false
      · obtain ⟨text, taken, rfl⟩ := takes_after_map_iff.1 takes
        exact .string taken
      · have held := takes_after_iff.1 takes
        obtain ⟨inner, given, items, taken, rfl⟩ := takes_container_iff.1 held
        exact .list given taken
      · have held := takes_after_iff.1 takes
        obtain ⟨inner, given, kept, taken, rfl⟩ := takes_container_iff.1 held
        exact .object given taken
      · obtain ⟨n, taken, rfl⟩ := takes_after_map_iff.1 takes
        exact .negative taken
      · split at takes
        · rename_i digit
          obtain ⟨n, taken, rfl⟩ := takes_fromFirst_map_iff.1 takes
          exact .digit digit taken
        · obtain ⟨_, ⟨⟩⟩ := takes
      · obtain ⟨_, ⟨⟩⟩ := takes
  · rintro ⟨symbol, behind, ⟨shorter, found⟩, begins⟩
    rw [found]
    cases begins with
    | null => exact takes_word_iff.2 ⟨rfl, rfl⟩
    | true => exact takes_word_iff.2 ⟨rfl, rfl⟩
    | false => exact takes_word_iff.2 ⟨rfl, rfl⟩
    | string takes => exact takes_after_map_iff.2 ⟨_, takes, rfl⟩
    | list given takes =>
      exact takes_after_iff.2 (takes_container_iff.2 ⟨_, given, _, takes, rfl⟩)
    | object given takes =>
      exact takes_after_iff.2 (takes_container_iff.2 ⟨_, given, _, takes, rfl⟩)
    | negative takes => exact takes_after_map_iff.2 ⟨_, takes, rfl⟩
    | digit digit takes =>
      dsimp only
      split
      case h_8 =>
        rename_i same
        cases same
        rw [if_pos digit]
        exact takes_fromFirst_map_iff.2 ⟨_, takes, rfl⟩
      case h_9 =>
        rename_i same
        cases same
      all_goals
        rename_i same
        cases same
        cases digit

/-- What stands behind the first symbol of a value is a text of its own. -/
theorem Begins.split (isLocal : ∀ inner, nested = some inner → IsLocal EndsNumeral inner)
    (opens : ∀ inner, nested = some inner → OpensItem inner) {behind : List Symbol}
    (begins : Begins nested rest symbol behind v) :
    ∃ text, behind = text ++ rest ∧
      ∀ rest, EndsNumeral rest → Begins nested rest symbol (text ++ rest) v := by
  cases begins with
  | null => exact ⟨_, rfl, fun rest _ => .null⟩
  | true => exact ⟨_, rfl, fun rest _ => .true⟩
  | false => exact ⟨_, rfl, fun rest _ => .false⟩
  | string takes =>
    obtain ⟨text, split, reads⟩ := isLocal_string takes
    exact ⟨text, split, fun rest _ => .string (reads rest trivial)⟩
  | list given takes =>
    obtain ⟨text, split, reads⟩ := isLocal_list (isLocal _ given) (opens _ given) takes
    exact ⟨text, split, fun rest _ => .list given (reads rest trivial)⟩
  | object given takes =>
    obtain ⟨text, split, reads⟩ := isLocal_members (isLocal_keepMember (isLocal _ given)) [] takes
    exact ⟨text, split, fun rest _ => .object given (reads rest trivial)⟩
  | negative takes =>
    obtain ⟨text, split, reads⟩ := isLocal_number Bool.true takes
    exact ⟨text, split, fun rest ends => .negative (reads rest ends)⟩
  | digit digit takes =>
    obtain ⟨text, split, reads⟩ := (isLocal_number Bool.false).behind takes
    exact ⟨text, split, fun rest ends => .digit digit (reads rest ends)⟩

theorem isLocal_valueWith (isLocal : ∀ inner, nested = some inner → IsLocal EndsNumeral inner)
    (opens : ∀ inner, nested = some inner → OpensItem inner) :
    IsLocal EndsNumeral (valueWith nested) := by
  intro s v rest takes
  obtain ⟨symbol, behind, finds, begins⟩ := takes_valueWith_iff.1 takes
  obtain ⟨text, rfl, reads⟩ := begins.split isLocal opens
  obtain ⟨front, rfl, found⟩ := finds.split
  refine ⟨front ++ text, (List.append_assoc _ _ _).symm, fun rest ends => ?_⟩
  rw [List.append_assoc]
  exact takes_valueWith_iff.2 ⟨symbol, _, found _, reads rest ends⟩

theorem opensItem_valueWith : OpensItem (valueWith nested) := by
  intro s v rest takes
  obtain ⟨symbol, behind, finds, begins⟩ := takes_valueWith_iff.1 takes
  refine ⟨symbol, behind, finds, ?_⟩
  rintro rfl
  cases begins with
  | digit digit => cases digit

theorem opensItem_value (levels : Nat) : OpensItem (value levels) := by
  cases levels <;> exact opensItem_valueWith

/-- A value is read as if nothing but the end of a number stood behind it, at any depth. -/
theorem isLocal_value (levels : Nat) : IsLocal EndsNumeral (value levels) := by
  induction levels with
  | zero => exact isLocal_valueWith nofun nofun
  | succ levels ih =>
    refine isLocal_valueWith ?_ ?_
    · rintro _ ⟨⟩
      exact ih
    · rintro _ ⟨⟩
      exact opensItem_value levels

end EvidenceTree.Json
