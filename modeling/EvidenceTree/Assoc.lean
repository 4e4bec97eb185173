/-!
# Association lists with sorted keys

Members of an object and evidence under its keys are kept as pairs in ascending order of the keys,
each key once. Keys are ordered by code points, which is also the order of their UTF-8 bytes.
-/

namespace EvidenceTree

/-- Pairs of a key and a value in ascending order of the keys. -/
abbrev Assoc (α : Type) := List (String × α)

namespace Assoc

variable {α : Type}

/-- The list with the value under the key, in place of an earlier value. -/
def insert (key : String) (value : α) : Assoc α → Assoc α
  | [] => [(key, value)]
  | (k, v) :: rest =>
    if key = k then (key, value) :: rest
    else if key < k then (key, value) :: (k, v) :: rest
    else (k, v) :: insert key value rest

/-- The value under the key. -/
def find? (key : String) : Assoc α → Option α
  | [] => none
  | (k, v) :: rest => if k = key then some v else find? key rest

/-- The list of the pairs; the last value under a key counts. -/
def ofList (pairs : List (String × α)) : Assoc α :=
  pairs.foldl (fun assoc pair => insert pair.1 pair.2 assoc) []

@[simp]
theorem find?_insert_self (key : String) (value : α) (assoc : Assoc α) :
    find? key (insert key value assoc) = some value := by
  induction assoc with
  | nil => simp [insert, find?]
  | cons pair rest ih =>
    obtain ⟨k, v⟩ := pair
    unfold insert
    split
    · simp [find?]
    · split
      · simp [find?]
      · simp [find?, ih, Ne.symm ‹key ≠ k›]

theorem find?_insert_of_ne {key other : String} (value : α) (assoc : Assoc α)
    (differ : key ≠ other) : find? other (insert key value assoc) = find? other assoc := by
  induction assoc with
  | nil => simp [insert, find?, differ]
  | cons pair rest ih =>
    obtain ⟨k, v⟩ := pair
    unfold insert
    split
    · rename_i same
      subst same
      simp [find?, differ]
    · split
      · simp [find?, differ]
      · simp [find?, ih]

/-- Values that are changed each by its own key are found changed. -/
theorem find?_map {β : Type} (f : String → α → β) (key : String) (assoc : Assoc α) :
    find? key (assoc.map fun pair => (pair.1, f pair.1 pair.2)) =
      (find? key assoc).map (f key) := by
  induction assoc with
  | nil => rfl
  | cons pair rest ih =>
    obtain ⟨k, v⟩ := pair
    rw [List.map_cons, find?, find?]
    split
    · rename_i same
      subst same
      rfl
    · exact ih

end Assoc

end EvidenceTree
