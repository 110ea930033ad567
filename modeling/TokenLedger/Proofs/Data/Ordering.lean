/-
This file proves what sorting by a key does: it lists the same records in ascending order, those with
one key in the order in which they were given, and there is only one such list. Records with
different keys come to one list, whatever their order was. The file also says what numbering in order
is.
-/

import Mathlib
import TokenLedger.Data.Sorting

namespace TokenLedger

open KeyOrder

/-- A key that is not before a second one, which is not before a third, is not before the third. -/
theorem KeyOrder.not_before_trans {κ : Type} [KeyOrder κ] {first second third : κ}
    (left : before first second = false) (right : before second third = false) :
    before first third = false := by
  by_contra ordered
  rw [Bool.not_eq_false] at ordered
  by_cases same : second = third
  · rw [same, ordered] at left
    cases left
  · have converse := (connected second third same).resolve_left (by simp [right])
    rw [trans _ _ _ ordered converse] at left
    cases left

/-- Keys of bytes are in the lexicographic order of the values of the bytes. -/
theorem KeyOrder.before_bytes_iff {first second : Bytes} :
    before first second = true ↔ first < second := by
  show beforeList first second = true ↔ first < second
  induction first generalizing second with
  | nil => cases second <;> simp [beforeList]
  | cons head rest inductionHypothesis =>
    cases second with
    | nil => simp [beforeList]
    | cons other others =>
      rw [List.cons_lt_cons_iff]
      by_cases same : head = other
      · subst same
        rw [beforeList_cons_self, inductionHypothesis]
        simp
      · rw [beforeList_cons_of_ne same]
        simp [same, before]

/-- Keys are listed in ascending order, and none of them twice. -/
def KeyOrder.Ascending {κ : Type} [KeyOrder κ] (keys : List κ) : Prop :=
  keys.Pairwise fun earlier later => before earlier later = true

/-- Records can be listed in the order of their keys in one way only. -/
theorem KeyOrder.Ascending.eq_of_mem_iff {κ α : Type} [KeyOrder κ] (key : α → κ)
    {first second : List α} (firstAscending : Ascending (first.map key))
    (secondAscending : Ascending (second.map key))
    (same : ∀ record, record ∈ first ↔ record ∈ second) : first = second := by
  have irreflexive : Std.Irrefl fun earlier later : α => before (key earlier) (key later) = true :=
    ⟨fun record loop => by rw [KeyOrder.irrefl] at loop; cases loop⟩
  have antisymmetric : Std.Antisymm fun earlier later : α =>
      before (key earlier) (key later) = true :=
    ⟨fun _ _ ordered converse => by rw [asymm ordered] at converse; cases converse⟩
  exact (List.pairwise_map.mp firstAscending).eq_of_mem_iff (List.pairwise_map.mp secondAscending)
    same

/-! ### Sorting -/

section Sorting

variable {κ α : Type} [KeyOrder κ] (key : α → κ)

theorem insertBy_perm (record : α) (records : List α) :
    (insertBy key record records).Perm (record :: records) := by
  induction records with
  | nil => exact .refl _
  | cons other rest inductionHypothesis =>
    rw [insertBy]
    split
    next => exact (inductionHypothesis.cons other).trans (.swap record other rest)
    next => exact .refl _

theorem sortBy_perm (records : List α) : (sortBy key records).Perm records := by
  induction records with
  | nil => exact .refl _
  | cons record rest inductionHypothesis =>
    exact (insertBy_perm key record _).trans (inductionHypothesis.cons record)

/-- A record that no other one comes before is put in front of them. -/
theorem insertBy_of_first {record : α} {records : List α}
    (first : ∀ other ∈ records, before (key other) (key record) = false) :
    insertBy key record records = record :: records := by
  cases records with
  | nil => rfl
  | cons other rest =>
    rw [insertBy, first other List.mem_cons_self, if_neg Bool.false_ne_true]

/-- Records are in ascending order if none comes before an earlier one. -/
def Ascends (records : List α) : Prop :=
  records.Pairwise fun earlier later => before (key later) (key earlier) = false

/-- Records in ascending order stay as they are. -/
theorem sortBy_of_ascends {records : List α} (ascends : Ascends key records) :
    sortBy key records = records := by
  rw [Ascends] at ascends
  induction ascends with
  | nil => rfl
  | @cons record rest first _ inductionHypothesis =>
    rw [sortBy, List.foldr_cons, ← sortBy, inductionHypothesis, insertBy_of_first key first]

theorem ascends_insertBy (record : α) {records : List α} (ascends : Ascends key records) :
    Ascends key (insertBy key record records) := by
  rw [Ascends] at ascends ⊢
  induction records with
  | nil => exact List.pairwise_singleton _ _
  | cons other rest inductionHypothesis =>
    obtain ⟨first, others⟩ := List.pairwise_cons.mp ascends
    rw [insertBy]
    split
    next ordered =>
      refine List.pairwise_cons.mpr ⟨fun later member => ?_, inductionHypothesis others⟩
      rcases List.mem_cons.mp ((insertBy_perm key record rest).mem_iff.mp member) with rfl | member
      · exact asymm ordered
      · exact first later member
    next notOrdered =>
      have notOrdered := Bool.eq_false_of_not_eq_true notOrdered
      refine List.pairwise_cons.mpr ⟨fun later member => ?_, ascends⟩
      rcases List.mem_cons.mp member with rfl | member
      · exact notOrdered
      · exact not_before_trans (first later member) notOrdered

theorem ascends_sortBy (records : List α) : Ascends key (sortBy key records) := by
  induction records with
  | nil => exact .nil
  | cons record rest inductionHypothesis => exact ascends_insertBy key record inductionHypothesis

/-- Of records with different keys, each comes before those after it. -/
theorem pairwise_before_sortBy {records : List α} (distinct : (records.map key).Nodup) :
    (sortBy key records).Pairwise fun earlier later => before (key earlier) (key later) = true := by
  have apart : (sortBy key records).Pairwise fun earlier later => key earlier ≠ key later :=
    List.pairwise_map.mp (((sortBy_perm key records).map key).nodup_iff.mpr distinct)
  refine (apart.and (ascends_sortBy key records)).imp fun {earlier later} both => ?_
  refine (connected _ _ both.1).resolve_right fun converse => ?_
  rw [both.2] at converse
  cases converse

/-- Records with different keys come to one list, whatever their order was. -/
theorem sortBy_eq_of_perm {first second : List α} (distinct : (first.map key).Nodup)
    (same : first.Perm second) : sortBy key first = sortBy key second := by
  have sorted := (sortBy_perm key first).trans (same.trans (sortBy_perm key second).symm)
  refine List.Perm.eq_of_pairwise ?_ (ascends_sortBy key first) (ascends_sortBy key second) sorted
  intro earlier later inFirst inSecond notBefore notAfter
  have laterInFirst := same.mem_iff.mpr ((sortBy_perm key second).mem_iff.mp inSecond)
  refine List.inj_on_of_nodup_map distinct ((sortBy_perm key first).mem_iff.mp inFirst)
    laterInFirst ?_
  by_contra different
  rcases connected (key earlier) (key later) different with ordered | ordered
  · rw [ordered] at notAfter
    cases notAfter
  · rw [ordered] at notBefore
    cases notBefore

/-- The first of two lists in ascending order does not come after a record of the other. -/
theorem not_before_of_perm {record other : α} {rest others : List α}
    (ascends : Ascends key (other :: others)) (same : (record :: rest).Perm (other :: others)) :
    before (key record) (key other) = false := by
  rcases List.mem_cons.mp (same.mem_iff.mp List.mem_cons_self) with rfl | member
  · exact irrefl (key record)
  · exact (List.pairwise_cons.mp ascends).1 record member

variable [DecidableEq κ]

/-- The records in ascending order of their keys, those with one key in the order in which they were
given. -/
structure IsSorting (records sorted : List α) : Prop where
  perm : sorted.Perm records
  ascends : Ascends key sorted
  stable : ∀ name, (sorted.filter fun record => key record = name) =
    records.filter fun record => key record = name

/-- A record is not put over another one with its key. -/
theorem filter_insertBy (record : α) (records : List α) (name : κ) :
    ((insertBy key record records).filter fun record => key record = name) =
      (record :: records).filter fun record => key record = name := by
  induction records with
  | nil => rfl
  | cons other rest inductionHypothesis =>
    rw [insertBy]
    split
    next ordered =>
      rw [List.filter_cons, inductionHypothesis]
      by_cases isName : key record = name
      · have different : key other ≠ name := isName ▸ ne_of_before ordered
        simp [isName, different]
      · simp [List.filter_cons, isName]
    next => rfl

theorem isSorting_sortBy (records : List α) : IsSorting key records (sortBy key records) := by
  refine ⟨sortBy_perm key records, ascends_sortBy key records, fun name => ?_⟩
  induction records with
  | nil => rfl
  | cons record rest inductionHypothesis =>
    rw [sortBy, List.foldr_cons, ← sortBy, filter_insertBy, List.filter_cons, inductionHypothesis,
      List.filter_cons]

variable {key}

/-- By induction on the two lists, records in ascending order are determined by those that have one
key. -/
theorem eq_of_ascends {first second : List α} (same : first.Perm second)
    (stable : ∀ name, (first.filter fun record => key record = name) =
      second.filter fun record => key record = name)
    (firstAscends : Ascends key first) (secondAscends : Ascends key second) : first = second := by
  induction first generalizing second with
  | nil => exact (List.nil_perm.mp same).symm
  | cons record rest inductionHypothesis =>
    cases second with
    | nil => cases same.eq_nil
    | cons other others =>
      have sameKey : key record = key other := by
        by_contra different
        rcases connected _ _ different with ordered | ordered
        · rw [not_before_of_perm key secondAscends same] at ordered
          cases ordered
        · rw [not_before_of_perm key firstAscends same.symm] at ordered
          cases ordered
      have heads := stable (key record)
      rw [List.filter_cons_of_pos (by simp), List.filter_cons_of_pos (by simp [sameKey])] at heads
      obtain ⟨rfl, _⟩ := List.cons.inj heads
      refine congrArg (record :: ·) (inductionHypothesis (List.Perm.cons_inv same)
        (fun name => ?_) firstAscends.of_cons secondAscends.of_cons)
      have both := stable name
      by_cases isName : key record = name
      · simpa [isName] using both
      · simpa [isName] using both

/-- There is only one way to sort. -/
theorem isSorting_iff {records sorted : List α} :
    IsSorting key records sorted ↔ sorted = sortBy key records := by
  constructor
  · intro sorting
    have expected := isSorting_sortBy key records
    exact eq_of_ascends (sorting.perm.trans expected.perm.symm)
      (fun name => (sorting.stable name).trans (expected.stable name).symm) sorting.ascends
      expected.ascends
  · rintro rfl
    exact isSorting_sortBy key records

end Sorting

/-! ### Numbering -/

section Numbering

variable {α : Type} (number : α → UInt64)

/-- The records are numbered in order, and the first comes after the given number. -/
def Numbered (last : UInt64) : List α → Prop
  | [] => True
  | record :: rest => number record = last + 1 ∧ Numbered (number record) rest

theorem add_ofNat_succ (last : UInt64) (count : Nat) :
    last + 1 + UInt64.ofNat count = last + UInt64.ofNat (count + 1) := by
  rw [UInt64.ofNat_add, UInt64.add_assoc, UInt64.add_comm 1]
  rfl

variable {number}

theorem numbered_append {last : UInt64} {earlier later : List α} :
    Numbered number last (earlier ++ later) ↔
      Numbered number last earlier ∧
        Numbered number (last + UInt64.ofNat earlier.length) later := by
  induction earlier generalizing last with
  | nil => simp [Numbered]
  | cons record rest inductionHypothesis =>
    rw [List.cons_append, Numbered, Numbered, inductionHypothesis, List.length_cons,
      ← add_ofNat_succ, and_assoc]
    constructor
    · rintro ⟨next, others⟩
      exact ⟨next, next ▸ others⟩
    · rintro ⟨next, others⟩
      exact ⟨next, next.symm ▸ others⟩

/-- The number of the last of some records that are numbered in order is their number. -/
theorem Numbered.last {last : UInt64} {records : List α} (numbered : Numbered number last records) :
    (records.getLast?.map number).getD last = last + UInt64.ofNat records.length := by
  rcases List.eq_nil_or_concat records with rfl | ⟨earlier, record, rfl⟩
  · simp
  · rw [List.concat_eq_append] at numbered ⊢
    obtain ⟨_, next, _⟩ := numbered_append.mp numbered
    rw [List.getLast?_concat, Option.map_some, Option.getD_some, next, List.length_append,
      List.length_singleton, UInt64.ofNat_add, UInt64.add_assoc]
    rfl

/-- As long as there are enough numbers, they ascend. -/
theorem Numbered.bounds {last : UInt64} {records : List α} (numbered : Numbered number last records)
    (enough : last.toNat + records.length < UInt64.size) :
    ∀ record ∈ records, last.toNat < (number record).toNat ∧
      (number record).toNat ≤ last.toNat + records.length := by
  induction records generalizing last with
  | nil => exact fun _ member => (List.not_mem_nil member).elim
  | cons first rest inductionHypothesis =>
    rw [List.length_cons] at enough
    obtain ⟨next, following⟩ := numbered
    have step : (number first).toNat = last.toNat + 1 := by
      have small : last.toNat + 1 < UInt64.size := by omega
      rw [next, UInt64.toNat_add]
      exact Nat.mod_eq_of_lt small
    have others := inductionHypothesis following (by omega)
    intro record member
    rw [List.length_cons]
    rcases List.mem_cons.mp member with rfl | member
    · omega
    · have bounds := others record member
      omega

/-- What the records are numbered with. -/
theorem Numbered.map_eq {last : UInt64} {records : List α} (numbered : Numbered number last records) :
    records.map number =
      (List.range records.length).map fun place => last + UInt64.ofNat (place + 1) := by
  induction records generalizing last with
  | nil => rfl
  | cons record rest inductionHypothesis =>
    obtain ⟨next, following⟩ := numbered
    rw [List.map_cons, List.length_cons, List.range_succ_eq_map, List.map_cons, List.map_map,
      inductionHypothesis following, next]
    exact congrArg _ (List.map_congr_left fun place _ => add_ofNat_succ last (place + 1))

/-- The number of each record is that of its place. -/
theorem numbered_iff_getElem {last : UInt64} {records : List α} :
    Numbered number last records ↔ ∀ (place : Nat) (inside : place < records.length),
      number records[place] = last + UInt64.ofNat (place + 1) := by
  induction records generalizing last with
  | nil => exact ⟨fun _ _ inside => (Nat.not_lt_zero _ inside).elim, fun _ => trivial⟩
  | cons record rest inductionHypothesis =>
    rw [Numbered, inductionHypothesis]
    constructor
    · rintro ⟨next, following⟩ (_ | place) inside
      · exact next
      · rw [List.getElem_cons_succ, following, next, add_ofNat_succ]
    · intro numbered
      have next : number record = last + 1 := numbered 0 (Nat.zero_lt_succ _)
      refine ⟨next, fun place inside => ?_⟩
      rw [next, add_ofNat_succ]
      exact numbered (place + 1) (Nat.succ_lt_succ inside)

/-- As long as there are enough numbers, each is used once. -/
theorem Numbered.map_toNat {last : UInt64} {records : List α}
    (numbered : Numbered number last records)
    (enough : last.toNat + records.length < UInt64.size) :
    (records.map fun record => (number record).toNat) =
      List.range' (last.toNat + 1) records.length := by
  have plain (place : Nat) (member : place ∈ List.range records.length) :
      (last + UInt64.ofNat (place + 1)).toNat = last.toNat + 1 + place := by
    have below := List.mem_range.mp member
    have count : (UInt64.ofNat (place + 1)).toNat = place + 1 :=
      UInt64.toNat_ofNat_of_lt' (by omega)
    have small : last.toNat + (place + 1) < UInt64.size := by omega
    rw [UInt64.toNat_add, count, Nat.mod_eq_of_lt small]
    omega
  have listed := congrArg (List.map UInt64.toNat) numbered.map_eq
  rw [List.map_map, List.map_map] at listed
  rw [List.range'_eq_map_range]
  exact listed.trans (List.map_congr_left plain)

/-- The records after some of them are those with greater numbers. -/
theorem Numbered.filter_eq {earlier later : List α}
    (numbered : Numbered number 0 (earlier ++ later))
    (enough : (earlier ++ later).length < UInt64.size) :
    (earlier ++ later).filter (fun record => UInt64.ofNat earlier.length < number record) =
      later := by
  obtain ⟨front, back⟩ := numbered_append.mp numbered
  rw [List.length_append] at enough
  have count : (UInt64.ofNat earlier.length).toNat = earlier.length :=
    UInt64.toNat_ofNat_of_lt' (by omega)
  rw [UInt64.zero_add] at back
  have frontBounds := front.bounds (by rw [UInt64.toNat_zero]; omega)
  have backBounds := back.bounds (by omega)
  rw [List.filter_append, List.filter_eq_nil_iff.mpr, List.filter_eq_self.mpr, List.nil_append]
  · intro record member
    have bounds := backBounds record member
    rw [decide_eq_true_eq, UInt64.lt_iff_toNat_lt]
    omega
  · intro record member
    have bounds := frontBounds record member
    rw [UInt64.toNat_zero] at bounds
    rw [decide_eq_true_eq, UInt64.lt_iff_toNat_lt]
    omega

end Numbering

end TokenLedger
