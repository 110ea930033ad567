/-
Finite maps kept as lists in ascending key order. The order is part of the type, so that two maps
with the same bindings are the same value: equal contents are written, hashed and compared alike
whatever the history that led to them.
-/

import TokenLedger.Data.KeyOrder

namespace TokenLedger

open KeyOrder

/-- A finite map: its bindings, listed once each in ascending key order. -/
structure SortedMap (κ α : Type) [KeyOrder κ] where
  entries : List (κ × α)
  ascending : entries.Pairwise fun earlier later => before earlier.1 later.1 = true

namespace SortedMap

variable {κ α : Type}

/-! ### Bindings as a list -/

/-- The value bound to a key in a list of bindings. -/
def find? [DecidableEq κ] (key : κ) : List (κ × α) → Option α
  | [] => none
  | (bound, value) :: rest => if bound = key then some value else find? key rest

/-- Put one binding into its place, over an earlier one of the same key. -/
def insertInto [DecidableEq κ] [KeyOrder κ] (key : κ) (value : α) : List (κ × α) → List (κ × α)
  | [] => [(key, value)]
  | (bound, old) :: rest =>
    if bound = key then (key, value) :: rest
    else if before key bound then (key, value) :: (bound, old) :: rest
    else (bound, old) :: insertInto key value rest

theorem mem_insertInto [DecidableEq κ] [KeyOrder κ] {key : κ} {value : α} {entry : κ × α}
    {entries : List (κ × α)} (member : entry ∈ insertInto key value entries) :
    entry = (key, value) ∨ entry ∈ entries := by
  induction entries with
  | nil => simpa [insertInto] using member
  | cons head rest inductionHypothesis =>
    obtain ⟨bound, old⟩ := head
    rw [insertInto] at member
    split at member
    · simp only [List.mem_cons] at member ⊢
      rcases member with same | inRest
      · exact .inl same
      · exact .inr (.inr inRest)
    · split at member
      · simpa using member
      · simp only [List.mem_cons] at member ⊢
        rcases member with same | inRest
        · exact .inr (.inl same)
        · rcases inductionHypothesis inRest with same | inOld
          · exact .inl same
          · exact .inr (.inr inOld)

theorem ascending_insertInto [DecidableEq κ] [KeyOrder κ] (key : κ) (value : α)
    {entries : List (κ × α)}
    (ascending : entries.Pairwise fun earlier later => before earlier.1 later.1 = true) :
    (insertInto key value entries).Pairwise
      fun earlier later => before earlier.1 later.1 = true := by
  induction entries with
  | nil => simp [insertInto]
  | cons head rest inductionHypothesis =>
    obtain ⟨bound, old⟩ := head
    rw [List.pairwise_cons] at ascending
    obtain ⟨headFirst, restAscending⟩ := ascending
    rw [insertInto]
    split
    next same =>
      subst same
      exact List.pairwise_cons.mpr ⟨headFirst, restAscending⟩
    next distinct =>
      split
      next first =>
        refine List.pairwise_cons.mpr ⟨fun entry member => ?_,
          List.pairwise_cons.mpr ⟨headFirst, restAscending⟩⟩
        rcases List.mem_cons.mp member with same | inRest
        · rw [same]; exact first
        · exact trans _ _ _ first (headFirst entry inRest)
      next notFirst =>
        refine List.pairwise_cons.mpr ⟨fun entry member => ?_, inductionHypothesis restAscending⟩
        rcases mem_insertInto member with same | inRest
        · rw [same]
          exact (connected bound key distinct).resolve_right notFirst
        · exact headFirst entry inRest

theorem find?_insertInto_self [DecidableEq κ] [KeyOrder κ] (key : κ) (value : α)
    (entries : List (κ × α)) : find? key (insertInto key value entries) = some value := by
  induction entries with
  | nil => simp [insertInto, find?]
  | cons head rest inductionHypothesis =>
    obtain ⟨bound, old⟩ := head
    rw [insertInto]
    split
    · simp [find?]
    next distinct =>
      split
      · simp [find?]
      · simp [find?, distinct, inductionHypothesis]

theorem find?_insertInto_other [DecidableEq κ] [KeyOrder κ] {key other : κ} (distinct : other ≠ key)
    (value : α) (entries : List (κ × α)) :
    find? other (insertInto key value entries) = find? other entries := by
  have keyOther : key ≠ other := fun same => distinct same.symm
  induction entries with
  | nil => simp [insertInto, find?, keyOther]
  | cons head rest inductionHypothesis =>
    obtain ⟨bound, old⟩ := head
    rw [insertInto]
    split
    next same => simp [find?, keyOther, same]
    · split
      · simp [find?, keyOther]
      · simp [find?, inductionHypothesis]

theorem find?_filter_other [DecidableEq κ] {key other : κ} (distinct : other ≠ key)
    (entries : List (κ × α)) :
    find? other (entries.filter fun entry => entry.1 ≠ key) = find? other entries := by
  induction entries with
  | nil => rfl
  | cons head rest inductionHypothesis =>
    obtain ⟨bound, value⟩ := head
    simp only [ne_eq, decide_not] at inductionHypothesis
    by_cases dropped : bound = key
    · subst dropped
      have boundOther : bound ≠ other := fun same => distinct same.symm
      simp [find?, inductionHypothesis, boundOther]
    · simp [dropped, find?, inductionHypothesis]

theorem find?_filter_self [DecidableEq κ] (key : κ) (entries : List (κ × α)) :
    find? key (entries.filter fun entry => entry.1 ≠ key) = none := by
  induction entries with
  | nil => rfl
  | cons head rest inductionHypothesis =>
    obtain ⟨bound, value⟩ := head
    simp only [ne_eq, decide_not] at inductionHypothesis
    by_cases dropped : bound = key
    · simp [dropped, inductionHypothesis]
    · simp [dropped, find?, inductionHypothesis]

/-! ### Maps -/

variable [KeyOrder κ]

/-- The map without bindings. -/
def empty : SortedMap κ α := ⟨[], .nil⟩

instance : EmptyCollection (SortedMap κ α) := ⟨empty⟩

instance : Inhabited (SortedMap κ α) := ⟨empty⟩

instance [DecidableEq κ] [DecidableEq α] : DecidableEq (SortedMap κ α) := fun first second =>
  if same : first.entries = second.entries then
    isTrue (by cases first; cases second; simpa using same)
  else
    isFalse fun equal => same (by rw [equal])

theorem eq_of_entries_eq {first second : SortedMap κ α} (same : first.entries = second.entries) :
    first = second := by
  cases first; cases second; simpa using same

variable [DecidableEq κ]

/-- The value bound to a key. -/
def get? (map : SortedMap κ α) (key : κ) : Option α :=
  find? key map.entries

/-- Whether a key is bound. -/
def contains (map : SortedMap κ α) (key : κ) : Bool :=
  (map.get? key).isSome

/-- Bind a key, over an earlier binding. -/
def insert (map : SortedMap κ α) (key : κ) (value : α) : SortedMap κ α :=
  ⟨insertInto key value map.entries, ascending_insertInto key value map.ascending⟩

/-- Drop the binding of a key. -/
def erase (map : SortedMap κ α) (key : κ) : SortedMap κ α :=
  ⟨map.entries.filter fun entry => entry.1 ≠ key, map.ascending.filter _⟩

/-- The map of a list of bindings, of which the last for each key counts. -/
def ofList (entries : List (κ × α)) : SortedMap κ α :=
  entries.foldl (fun map entry => map.insert entry.1 entry.2) empty

/-- The keys, in ascending order. -/
def keys {κ α : Type} [KeyOrder κ] (map : SortedMap κ α) : List κ :=
  map.entries.map (·.1)

/-- The values, in the order of their keys. -/
def values {κ α : Type} [KeyOrder κ] (map : SortedMap κ α) : List α :=
  map.entries.map (·.2)

/-- The number of keys. -/
def size {κ α : Type} [KeyOrder κ] (map : SortedMap κ α) : Nat :=
  map.entries.length

/-- Whether no key is bound. -/
def isEmpty {κ α : Type} [KeyOrder κ] (map : SortedMap κ α) : Bool :=
  map.entries.isEmpty

@[simp] theorem get?_empty (key : κ) : (empty : SortedMap κ α).get? key = none := rfl

@[simp] theorem get?_insert_self (map : SortedMap κ α) (key : κ) (value : α) :
    (map.insert key value).get? key = some value :=
  find?_insertInto_self key value map.entries

theorem get?_insert_other (map : SortedMap κ α) {key other : κ} (distinct : other ≠ key)
    (value : α) : (map.insert key value).get? other = map.get? other :=
  find?_insertInto_other distinct value map.entries

@[simp] theorem get?_erase_self (map : SortedMap κ α) (key : κ) :
    (map.erase key).get? key = none :=
  find?_filter_self key map.entries

theorem get?_erase_other (map : SortedMap κ α) {key other : κ} (distinct : other ≠ key) :
    (map.erase key).get? other = map.get? other :=
  find?_filter_other distinct map.entries

end SortedMap

end TokenLedger
