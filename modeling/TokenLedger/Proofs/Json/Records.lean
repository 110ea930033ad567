/-
This file proves which values a record is read from. Where every field is required and no further
one is allowed, these are the objects with exactly the fields, in any order, and the array of the
fields in theirs. An open record skips further members, so that only its fields are looked up.
-/

import Mathlib
import TokenLedger.Proofs.Json.Values

namespace TokenLedger.Json

/-! ### Values and their documents -/

mutual

theorem Value.eq_of_tree_eq : (first second : Value) → first.tree = second.tree → first = second
  | .null, second, same => by cases second <;> simp_all [Value.tree]
  | .bool _, second, same => by cases second <;> simp_all [Value.tree]
  | .number _, second, same => by cases second <;> simp_all [Value.tree]
  | .string _, second, same => by cases second <;> simp_all [Value.tree]
  | .array items, second, same => by
    cases second with
    | array others =>
      rw [Value.tree, Value.tree, Tree.array.injEq] at same
      rw [Value.eq_of_itemTrees_eq items others same]
    | _ => simp [Value.tree] at same
  | .object members, second, same => by
    cases second with
    | object others =>
      rw [Value.tree, Value.tree, Tree.object.injEq] at same
      rw [Value.eq_of_memberTrees_eq members others same]
    | _ => simp [Value.tree] at same
termination_by structural first => first

theorem Value.eq_of_itemTrees_eq : (first second : List Value) →
    Value.itemTrees first = Value.itemTrees second → first = second
  | [], second, same => by cases second <;> simp_all [Value.itemTrees]
  | item :: rest, second, same => by
    cases second with
    | nil => simp [Value.itemTrees] at same
    | cons other others =>
      rw [Value.itemTrees, Value.itemTrees, List.cons.injEq] at same
      rw [Value.eq_of_tree_eq item other same.1, Value.eq_of_itemTrees_eq rest others same.2]
termination_by structural first => first

theorem Value.eq_of_memberTrees_eq : (first second : List (String × Value)) →
    Value.memberTrees first = Value.memberTrees second → first = second
  | [], second, same => by cases second <;> simp_all [Value.memberTrees]
  | (key, value) :: rest, second, same => by
    cases second with
    | nil => simp [Value.memberTrees] at same
    | cons other others =>
      rw [Value.memberTrees, Value.memberTrees, List.cons.injEq, Prod.mk.injEq,
        Option.some.injEq] at same
      rw [same.1.1, Value.eq_of_tree_eq value other.2 same.1.2,
        Value.eq_of_memberTrees_eq rest others same.2]
termination_by structural first => first

end

/-- A value is determined by its document. -/
theorem Value.tree_injective : Function.Injective Value.tree :=
  fun first second => Value.eq_of_tree_eq first second

/-! ### Objects without repetitions -/

/-- No object of the value, at whatever depth, names a member twice. -/
def Value.NamesOnce (value : Value) : Prop :=
  ∃ depth, value.Fits depth

theorem Value.NamesOnce.nodup_keys {members : List (String × Value)}
    (once : (Value.object members).NamesOnce) : (members.map Prod.fst).Nodup := by
  obtain ⟨depth, fits⟩ := once
  cases depth with
  | zero => exact fits.elim
  | succ depth => exact fits.1

theorem Value.NamesOnce.of_mem {members : List (String × Value)} {member : String × Value}
    (once : (Value.object members).NamesOnce) (isMember : member ∈ members) :
    member.2.NamesOnce := by
  obtain ⟨depth, fits⟩ := once
  cases depth with
  | zero => exact fits.elim
  | succ depth => exact ⟨depth, Value.membersFit_iff.mp fits.2 member isMember⟩

/-- In an object that names no member twice, looking up a key finds its member. -/
theorem Value.member?_eq_some_iff {members : List (String × Value)}
    (distinct : (members.map Prod.fst).Nodup) {key : String} {value : Value} :
    (Value.object members).member? key = some value ↔ (key, value) ∈ members := by
  rw [Value.member?, Option.map_eq_some_iff]
  constructor
  · rintro ⟨member, found, rfl⟩
    have named : member.1 = key := by simpa using List.find?_some found
    exact named ▸ List.mem_of_find?_eq_some found
  · intro isMember
    obtain ⟨member, found⟩ : ∃ member, members.find? (fun member => member.1 = key) =
        some member := by
      apply Option.isSome_iff_exists.mp
      exact List.find?_isSome.mpr ⟨_, isMember, decide_eq_true rfl⟩
    have named : member.1 = key := by simpa using List.find?_some found
    have same : member = (key, value) :=
      List.inj_on_of_nodup_map distinct (List.mem_of_find?_eq_some found) isMember named
    exact ⟨member, found, by rw [same]⟩

theorem Value.NamesOnce.of_member? {value member : Value} (once : value.NamesOnce) {key : String}
    (found : value.member? key = some member) : member.NamesOnce := by
  cases value with
  | object members => exact once.of_mem ((Value.member?_eq_some_iff once.nodup_keys).mp found)
  | _ => cases found

/-! ### The fields of a record -/

namespace Record

variable {names : List String} {isOpen : Bool} {members : List (String × Value)}

/-- The members of an object that are fields of a record. -/
def fieldsAmong (names : List String) (members : List (String × Value)) : List (String × Tree) :=
  (members.filter fun member => member.1 ∈ names).map fun member => (member.1, member.2.tree)

theorem ofMembers?_memberTrees (distinct : (members.map Prod.fst).Nodup)
    (known : isOpen = true ∨ ∀ member ∈ members, member.1 ∈ names) :
    ofMembers? names isOpen (Value.memberTrees members) = some (fieldsAmong names members) := by
  induction members with
  | nil => rfl
  | cons member rest inductionHypothesis =>
    obtain ⟨fresh, restDistinct⟩ := List.nodup_cons.mp distinct
    have restKnown : isOpen = true ∨ ∀ member ∈ rest, member.1 ∈ names :=
      known.imp_right fun all other isMember => all other (List.mem_cons_of_mem _ isMember)
    rw [Value.memberTrees, ofMembers?, inductionHypothesis restDistinct restKnown]
    simp only [Option.bind_eq_bind, Option.bind_some]
    by_cases isField : member.1 ∈ names
    · have unrepeated : ¬(fieldsAmong names rest).any (fun field => field.1 = member.1) = true := by
        intro repeated
        obtain ⟨field, isMember, named⟩ := List.any_eq_true.mp repeated
        obtain ⟨other, isOther, rfl⟩ := List.mem_map.mp isMember
        exact fresh (List.mem_map.mpr
          ⟨other, List.mem_of_mem_filter isOther, of_decide_eq_true named⟩)
      rw [if_pos isField, if_neg unrepeated]
      simp [fieldsAmong, isField]
    · have skips : isOpen = true :=
        known.resolve_right fun all => isField (all member List.mem_cons_self)
      rw [if_neg isField, if_pos skips]
      simp [fieldsAmong, isField]

/-- A closed record is read only from an object all of whose members are fields. -/
theorem known_of_ofMembers? {fields : List (String × Tree)}
    (read : ofMembers? names false (Value.memberTrees members) = some fields) :
    ∀ member ∈ members, member.1 ∈ names := by
  induction members generalizing fields with
  | nil => exact fun member isMember => absurd isMember List.not_mem_nil
  | cons member rest inductionHypothesis =>
    rw [Value.memberTrees, ofMembers?] at read
    simp only [Option.bind_eq_bind, Option.bind_some, Option.bind_eq_some_iff] at read
    obtain ⟨restFields, restRead, read⟩ := read
    refine List.forall_mem_cons.mpr ⟨?_, inductionHypothesis restRead⟩
    by_contra noField
    rw [if_neg noField] at read
    cases read

theorem field?_fieldsAmong {named : Bool} {name : String} (isField : name ∈ names) :
    (Record.mk named (fieldsAmong names members)).field? name =
      ((Value.object members).member? name).map Value.tree := by
  induction members with
  | nil => rfl
  | cons member rest inductionHypothesis =>
    simp only [field?, fieldsAmong, Value.member?] at inductionHypothesis ⊢
    by_cases same : member.1 = name
    · simp [same, isField]
    · by_cases known : member.1 ∈ names <;> simpa [same, known] using inductionHypothesis

/-- A required field is read as a value exactly if the document of that value stands there. -/
theorem required_eq_some_iff {α : Type} {record : Record} {name : String} {read : Tree → Option α}
    {written : α → Value} {value : α}
    (reads : ∀ tree, read tree = some value ↔ tree = (written value).tree) :
    record.required name read = some value ↔
      record.field? name = some (written value).tree := by
  rw [required, Option.bind_eq_bind, Option.bind_eq_some_iff]
  simp only [reads, exists_eq_right]

theorem required_text?_iff {record : Record} {name text : String} :
    record.required name Tree.text? = some text ↔
      record.field? name = some (Value.string text).tree := by
  refine required_eq_some_iff fun tree => ?_
  cases tree <;> simp [Tree.text?, Value.tree]

theorem required_bool?_iff {record : Record} {name : String} {value : Bool} :
    record.required name Tree.bool? = some value ↔
      record.field? name = some (Value.bool value).tree := by
  refine required_eq_some_iff fun tree => ?_
  cases tree <;> simp [Tree.bool?, Value.tree]

end Record

/-! ### Closed records -/

/-- The value lists the members: an object in any order, an array in theirs without the names. -/
def Value.Lists (value : Value) (members : List (String × Value)) : Prop :=
  (∃ written, value = .object written ∧ written.Perm members) ∨
    value = .array (members.map Prod.snd)

/-- A closed record of exactly the given members is read from the document. -/
def Record.Holds (tree : Tree) (members : List (String × Value)) : Prop :=
  ∃ record, Record.ofTree? (members.map Prod.fst) false tree = some record ∧
    ∀ member ∈ members, record.field? member.1 = some member.2.tree

theorem Record.holds_object_iff {written members : List (String × Value)}
    (distinct : (members.map Prod.fst).Nodup) (once : (written.map Prod.fst).Nodup) :
    Record.Holds (Value.object written).tree members ↔ written.Perm members := by
  constructor
  · rintro ⟨record, read, held⟩
    rw [Value.tree, Record.ofTree?, Option.map_eq_some_iff] at read
    obtain ⟨fields, read, rfl⟩ := read
    have known := Record.known_of_ofMembers? read
    rw [Record.ofMembers?_memberTrees once (.inr known), Option.some.injEq] at read
    have included : ∀ member ∈ members, member ∈ written := by
      intro member isMember
      have found := held member isMember
      rw [← read, Record.field?_fieldsAmong (List.mem_map_of_mem isMember),
        Option.map_eq_some_iff] at found
      obtain ⟨value, found, same⟩ := found
      rw [Value.tree_injective same] at found
      exact (Value.member?_eq_some_iff once).mp found
    refine (List.perm_ext_iff_of_nodup once.of_map distinct.of_map).mpr fun member =>
      ⟨fun isWritten => ?_, included member⟩
    obtain ⟨other, isMember, named⟩ := List.mem_map.mp (known member isWritten)
    rwa [← List.inj_on_of_nodup_map once (included other isMember) isWritten named]
  · intro same
    have known : ∀ member ∈ written, member.1 ∈ members.map Prod.fst := fun member isWritten =>
      List.mem_map_of_mem (same.mem_iff.mp isWritten)
    refine ⟨⟨true, Record.fieldsAmong (members.map Prod.fst) written⟩, ?_,
      fun member isMember => ?_⟩
    · rw [Value.tree, Record.ofTree?, Record.ofMembers?_memberTrees once (.inr known),
        Option.map_some]
    · rw [Record.field?_fieldsAmong (List.mem_map_of_mem isMember),
        (Value.member?_eq_some_iff once).mpr (same.mem_iff.mpr isMember), Option.map_some]

/-- The record that is read from an array of values. -/
def Record.ofItems (names : List String) (items : List Value) : Record :=
  ⟨false, names.zip (items.map Value.tree)⟩

section Items

variable {names : List String} {items : List Value} {item : Value} {name other : String}

theorem Record.field?_ofItems_nil : (Record.ofItems names []).field? name = none := by
  simp [Record.ofItems, Record.field?]

theorem Record.field?_ofItems_first :
    (Record.ofItems (name :: names) (item :: items)).field? name = some item.tree := by
  simp [Record.ofItems, Record.field?]

theorem Record.field?_ofItems_other (apart : name ≠ other) :
    (Record.ofItems (name :: names) (item :: items)).field? other =
      (Record.ofItems names items).field? other := by
  simp [Record.ofItems, Record.field?, apart]

end Items

/-- The fields stand in the order of their names, so the items of an array are compared with the
members one after the other. -/
theorem Record.ofItems_holds_iff {members : List (String × Value)} {items : List Value}
    (distinct : (members.map Prod.fst).Nodup) :
    (items.length ≤ members.length ∧ ∀ member ∈ members,
        (Record.ofItems (members.map Prod.fst) items).field? member.1 = some member.2.tree) ↔
      items = members.map Prod.snd := by
  induction members generalizing items with
  | nil => simp
  | cons member rest inductionHypothesis =>
    obtain ⟨fresh, restDistinct⟩ := List.nodup_cons.mp distinct
    cases items with
    | nil =>
      refine iff_of_false (fun both => ?_) (by simp)
      have found := both.2 member List.mem_cons_self
      rw [Record.field?_ofItems_nil] at found
      cases found
    | cons item items =>
      have later : (∀ other ∈ rest, (Record.ofItems (member.1 :: rest.map Prod.fst)
            (item :: items)).field? other.1 = some other.2.tree) ↔
          ∀ other ∈ rest,
            (Record.ofItems (rest.map Prod.fst) items).field? other.1 = some other.2.tree := by
        refine forall₂_congr fun other isMember => ?_
        have apart : member.1 ≠ other.1 := fun same =>
          fresh (same ▸ List.mem_map_of_mem isMember)
        rw [Record.field?_ofItems_other apart]
      rw [List.forall_mem_cons, List.map_cons, Record.field?_ofItems_first, later,
        Option.some.injEq, Value.tree_injective.eq_iff, List.length_cons, List.length_cons,
        Nat.add_le_add_iff_right, List.map_cons, List.cons.injEq]
      exact and_left_comm.trans (and_congr_right fun _ => inductionHypothesis restDistinct)

theorem Record.holds_array_iff {members : List (String × Value)} (items : List Value)
    (distinct : (members.map Prod.fst).Nodup) :
    Record.Holds (Value.array items).tree members ↔ items = members.map Prod.snd := by
  rw [← Record.ofItems_holds_iff distinct, Record.Holds, Value.tree, Record.ofTree?,
    Value.itemTrees_eq, List.length_map, List.length_map]
  by_cases short : items.length ≤ members.length
  · simp [short, Record.ofItems]
  · simp [short]

theorem Record.holds_tree_iff {members : List (String × Value)} {value : Value}
    (distinct : (members.map Prod.fst).Nodup) (once : value.NamesOnce) :
    Record.Holds value.tree members ↔ value.Lists members := by
  cases value with
  | object written =>
    simp [Record.holds_object_iff distinct once.nodup_keys, Value.Lists]
  | array items => simp [Record.holds_array_iff items distinct, Value.Lists]
  | _ => simp [Record.Holds, Record.ofTree?, Value.tree, Value.Lists]

/-! ### The order of members -/

/-- The value is neither an array nor an object. -/
def Value.IsScalar : Value → Prop
  | .array _ | .object _ => False
  | .null | .bool _ | .number _ | .string _ => True

theorem Value.IsScalar.sortKeys_eq {value : Value} (scalar : value.IsScalar) :
    value.sortKeys = value := by
  cases value with
  | array items => exact scalar.elim
  | object members => exact scalar.elim
  | _ => rfl

theorem Value.isScalar_sortKeys_iff {value : Value} :
    value.sortKeys.IsScalar ↔ value.IsScalar := by
  cases value <;> simp [Value.sortKeys, Value.IsScalar]

theorem Value.text?_sortKeys (value : Value) : value.sortKeys.text? = value.text? := by
  cases value <;> rfl

/-- Among members that are no containers themselves, sorting the keys of a value does not change
what it lists. -/
theorem Value.lists_sortKeys_iff {value : Value} {members : List (String × Value)}
    (scalars : ∀ member ∈ members, member.2.IsScalar) :
    value.sortKeys.Lists members ↔ value.Lists members := by
  cases value with
  | object written =>
    have unchanged (all : ∀ member ∈ written, member.2.IsScalar) :
        written.map Value.sortMember = written := by
      conv_rhs => rw [← List.map_id written]
      exact List.map_congr_left fun member isMember => by
        rw [Value.sortMember, (all member isMember).sortKeys_eq, id]
    simp only [Value.sortKeys, Value.Lists, Value.object.injEq, exists_eq_left', reduceCtorEq,
      or_false]
    rw [(Value.sortMembers_perm written).congr_left]
    constructor
    · intro same
      rwa [unchanged fun member isMember => Value.isScalar_sortKeys_iff.mp
        (scalars _ (same.mem_iff.mp (List.mem_map_of_mem isMember)))] at same
    · intro same
      rwa [unchanged fun member isMember => scalars member (same.mem_iff.mp isMember)]
  | array items =>
    have unchanged (all : ∀ item ∈ items, item.IsScalar) : items.map Value.sortKeys = items := by
      conv_rhs => rw [← List.map_id items]
      exact List.map_congr_left fun item isItem => (all item isItem).sortKeys_eq
    have scalar : ∀ item ∈ members.map Prod.snd, item.IsScalar :=
      List.forall_mem_map.mpr scalars
    simp only [Value.sortKeys, Value.Lists, Value.sortItems_eq, reduceCtorEq, false_and,
      exists_false, false_or, Value.array.injEq]
    constructor
    · intro same
      rwa [unchanged fun item isItem => Value.isScalar_sortKeys_iff.mp
        (scalar _ (same ▸ List.mem_map_of_mem isItem))] at same
    · intro same
      rwa [unchanged fun item isItem => scalar item (same ▸ isItem)]
  | _ => simp [Value.sortKeys, Value.Lists]

end TokenLedger.Json
