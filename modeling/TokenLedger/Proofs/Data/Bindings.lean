/-
This file proves that a finite map is determined by its look-ups, and how look-ups and sums over
the bindings change when a key is bound or dropped. The bindings are in ascending order, so a key
occurs once among them; a sum over the bindings therefore changes by exactly the value that is
replaced.
-/

import Mathlib
import TokenLedger.Data.SortedMap
import TokenLedger.Proofs.Data.Ordering

namespace TokenLedger.SortedMap

open KeyOrder

variable {κ α : Type} [KeyOrder κ] [DecidableEq κ]

/-! ### Bindings and look-ups -/

omit [KeyOrder κ] in
theorem mem_of_find? {key : κ} {value : α} {entries : List (κ × α)}
    (found : find? key entries = some value) : (key, value) ∈ entries := by
  induction entries with
  | nil => cases found
  | cons head rest inductionHypothesis =>
    obtain ⟨bound, old⟩ := head
    rw [find?] at found
    split at found
    next same =>
      rw [same, Option.some.inj found]
      exact List.mem_cons_self
    next => exact List.mem_cons_of_mem _ (inductionHypothesis found)

omit [KeyOrder κ] in
/-- In a list that binds no key twice, every binding is found. -/
theorem find?_of_mem {key : κ} {value : α} {entries : List (κ × α)}
    (distinct : (entries.map (·.1)).Nodup) (member : (key, value) ∈ entries) :
    find? key entries = some value := by
  induction entries with
  | nil => cases member
  | cons head rest inductionHypothesis =>
    obtain ⟨bound, old⟩ := head
    obtain ⟨fresh, restDistinct⟩ := List.nodup_cons.mp distinct
    rcases List.mem_cons.mp member with same | inRest
    · cases same
      exact if_pos rfl
    · have other : bound ≠ key := fun same =>
        fresh (List.mem_map.mpr ⟨_, inRest, same.symm⟩)
      rw [find?, if_neg other]
      exact inductionHypothesis restDistinct inRest

omit [DecidableEq κ] in
theorem ascending_keys (map : SortedMap κ α) : Ascending map.keys :=
  List.pairwise_map.mpr map.ascending

omit [DecidableEq κ] in
theorem nodup_keys (map : SortedMap κ α) : map.keys.Nodup :=
  map.ascending_keys.imp fun ordered => ne_of_before ordered

/-- The bindings are the pairs that can be looked up. -/
theorem mem_entries_iff {map : SortedMap κ α} {key : κ} {value : α} :
    (key, value) ∈ map.entries ↔ map.get? key = some value :=
  ⟨find?_of_mem (nodup_keys map), mem_of_find?⟩

theorem mem_keys_iff {map : SortedMap κ α} {key : κ} :
    key ∈ map.keys ↔ ∃ value, map.get? key = some value := by
  rw [keys, List.mem_map]
  constructor
  · rintro ⟨⟨_, value⟩, member, rfl⟩
    exact ⟨value, mem_entries_iff.mp member⟩
  · rintro ⟨value, found⟩
    exact ⟨(key, value), mem_entries_iff.mpr found, rfl⟩

/-- Maps with the same look-ups are equal. -/
theorem ext_get? {first second : SortedMap κ α}
    (same : ∀ key, first.get? key = second.get? key) : first = second := by
  apply eq_of_entries_eq
  refine KeyOrder.Ascending.eq_of_mem_iff Prod.fst first.ascending_keys second.ascending_keys
    fun ⟨key, value⟩ => ?_
  rw [mem_entries_iff, mem_entries_iff, same]

theorem contains_eq_isSome (map : SortedMap κ α) (key : κ) :
    map.contains key = (map.get? key).isSome := rfl

theorem get?_insert (map : SortedMap κ α) (key other : κ) (value : α) :
    (map.insert key value).get? other = if other = key then some value else map.get? other := by
  split
  next same => rw [same, get?_insert_self]
  next distinct => rw [get?_insert_other map distinct]

theorem get?_erase (map : SortedMap κ α) (key other : κ) :
    (map.erase key).get? other = if other = key then none else map.get? other := by
  split
  next same => rw [same, get?_erase_self]
  next distinct => rw [get?_erase_other map distinct]

theorem erase_of_get?_none {map : SortedMap κ α} {key : κ} (unbound : map.get? key = none) :
    map.erase key = map := by
  refine ext_get? fun other => ?_
  rw [get?_erase]
  split
  next same => rw [same, unbound]
  next => rfl

/-- A map without bindings answers no look-up. -/
theorem isEmpty_iff {map : SortedMap κ α} :
    map.isEmpty = true ↔ ∀ key, map.get? key = none := by
  constructor
  · intro noEntries key
    have none : map.entries = [] := List.isEmpty_iff.mp noEntries
    rw [get?, none, find?]
  · intro unbound
    apply List.isEmpty_iff.mpr
    apply List.eq_nil_iff_forall_not_mem.mpr
    rintro ⟨key, value⟩ member
    rw [mem_entries_iff, unbound] at member
    cases member

/-! ### Maps from lists -/

/-- Of several bindings of a key the last counts. -/
theorem get?_ofList_eq_last (entries : List (κ × α)) (key : κ) :
    (ofList entries).get? key = (entries.reverse.find? fun entry => entry.1 = key).map (·.2) := by
  induction entries using List.reverseRecOn with
  | nil => rfl
  | append_singleton earlier last inductionHypothesis =>
    have appended : ofList (earlier ++ [last]) = (ofList earlier).insert last.1 last.2 :=
      List.foldl_concat _ _ _ _
    rw [appended, get?_insert, inductionHypothesis, List.reverse_concat, List.find?_cons]
    by_cases same : last.1 = key
    · simp [same]
    · simp [same, Ne.symm same]

theorem get?_foldl_insert {entries : List (κ × α)} (distinct : (entries.map (·.1)).Nodup)
    (map : SortedMap κ α) (key : κ) :
    (entries.foldl (fun map entry => map.insert entry.1 entry.2) map).get? key =
      (find? key entries).or (map.get? key) := by
  induction entries generalizing map with
  | nil => rfl
  | cons head rest inductionHypothesis =>
    obtain ⟨bound, value⟩ := head
    obtain ⟨fresh, restDistinct⟩ := List.nodup_cons.mp distinct
    rw [List.foldl_cons, inductionHypothesis restDistinct, get?_insert, find?]
    by_cases same : key = bound
    · have absent : find? key rest = none := by
        cases found : find? key rest with
        | none => rfl
        | some old =>
          exact absurd (List.mem_map_of_mem (mem_of_find? found)) (same ▸ fresh)
      rw [if_pos same, if_pos same.symm, absent]
      rfl
    · rw [if_neg same, if_neg fun converse => same converse.symm]

/-- A list that binds no key twice is looked up as it stands. -/
theorem get?_ofList {entries : List (κ × α)} (distinct : (entries.map (·.1)).Nodup) (key : κ) :
    (ofList entries).get? key = find? key entries := by
  rw [ofList, get?_foldl_insert distinct, get?_empty, Option.or_none]

theorem get?_ofList_eq_some_iff {entries : List (κ × α)} (distinct : (entries.map (·.1)).Nodup)
    {key : κ} {value : α} : (ofList entries).get? key = some value ↔ (key, value) ∈ entries := by
  rw [get?_ofList distinct]
  exact ⟨mem_of_find?, find?_of_mem distinct⟩

/-- The bindings of the map of a list are those of the list. -/
theorem entries_ofList_perm {entries : List (κ × α)} (distinct : (entries.map (·.1)).Nodup) :
    (ofList entries).entries.Perm entries := by
  refine (List.perm_ext_iff_of_nodup (.of_map _ (nodup_keys _)) (.of_map _ distinct)).mpr ?_
  rintro ⟨key, value⟩
  exact mem_entries_iff.trans (get?_ofList_eq_some_iff distinct)

/-- Records that are bound to keys of their own are the values of the map. -/
theorem values_ofList_perm (key : α → κ) {records : List α} (distinct : (records.map key).Nodup) :
    (ofList (records.map fun record => (key record, record))).values.Perm records := by
  have keyed : ((records.map fun record => (key record, record)).map (·.1)).Nodup := by
    rwa [List.map_map]
  have values := (entries_ofList_perm keyed).map (·.2)
  rw [List.map_map] at values
  exact values.trans (.of_eq (List.map_id records))

/-- A map is the map of its bindings. -/
@[simp] theorem ofList_entries (map : SortedMap κ α) : ofList map.entries = map :=
  ext_get? fun key => get?_ofList (nodup_keys map) key

/-! ### Sums over the bindings -/

/-- The sum of a measure of the bindings. -/
def total (measure : κ → α → Nat) (map : SortedMap κ α) : Nat :=
  (map.entries.map fun entry => measure entry.1 entry.2).sum

/-- The measure of the binding of a key, zero when there is none. -/
def measureAt (measure : κ → α → Nat) (map : SortedMap κ α) (key : κ) : Nat :=
  (map.get? key).elim 0 (measure key)

omit [DecidableEq κ] in
@[simp] theorem total_empty (measure : κ → α → Nat) :
    total measure (empty : SortedMap κ α) = 0 := rfl

theorem sum_insertInto (measure : κ → α → Nat) (key : κ) (value : α) {entries : List (κ × α)}
    (ascending : entries.Pairwise fun earlier later => before earlier.1 later.1 = true) :
    ((insertInto key value entries).map fun entry => measure entry.1 entry.2).sum +
        (find? key entries).elim 0 (measure key) =
      (entries.map fun entry => measure entry.1 entry.2).sum + measure key value := by
  induction entries with
  | nil => simp [insertInto, find?]
  | cons head rest inductionHypothesis =>
    obtain ⟨bound, old⟩ := head
    obtain ⟨headFirst, restAscending⟩ := List.pairwise_cons.mp ascending
    have smaller := inductionHypothesis restAscending
    rw [insertInto, find?]
    by_cases same : bound = key
    · subst same
      simp only [if_true, List.map_cons, List.sum_cons, Option.elim_some]
      omega
    · rw [if_neg same, if_neg same]
      split
      next first =>
        -- The key comes before all bindings, so it is bound by none of them.
        have absent : find? key rest = none := by
          cases found : find? key rest with
          | none => rfl
          | some other =>
            have later := headFirst _ (mem_of_find? found)
            rw [asymm first] at later
            cases later
        simp only [absent, List.map_cons, List.sum_cons, Option.elim_none]
        omega
      next =>
        simp only [List.map_cons, List.sum_cons]
        omega

/-- Binding a key replaces its part of the sum. -/
theorem total_insert (measure : κ → α → Nat) (map : SortedMap κ α) (key : κ) (value : α) :
    total measure (map.insert key value) + measureAt measure map key =
      total measure map + measure key value :=
  sum_insertInto measure key value map.ascending

/-- Dropping a key takes its part out of the sum. -/
theorem total_erase (measure : κ → α → Nat) (map : SortedMap κ α) (key : κ) :
    total measure (map.erase key) + measureAt measure map key = total measure map := by
  cases bound : map.get? key with
  | none => simp [measureAt, bound, erase_of_get?_none bound]
  | some value =>
    have restored : (map.erase key).insert key value = map := by
      refine ext_get? fun other => ?_
      rw [get?_insert, get?_erase]
      split
      next same => rw [same, bound]
      next => rfl
    have inserted := total_insert measure (map.erase key) key value
    simp only [restored, measureAt, get?_erase_self, Option.elim_none] at inserted
    simp only [measureAt, bound, Option.elim_some]
    omega

end TokenLedger.SortedMap
