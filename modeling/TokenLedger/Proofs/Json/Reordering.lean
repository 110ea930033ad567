/-
This file proves that sorting the keys of a value brings it into a canonical form. Two values are
alike when they differ only in the order in which objects, at whatever depth, list their members.
Sorting gives a value that is alike, with the keys of every object in ascending order, and it
changes nothing in a value that has them in order already. Values that are alike come to the same,
since the members of an object have different keys and can be listed in ascending order in one way
only; the members themselves have come to the same before, by induction on the value. That an object
has different keys is what reading sees to: a member that is named again takes the place of the
earlier one.
-/

import Mathlib
import TokenLedger.Proofs.Json.Records

namespace TokenLedger.Json

open KeyOrder

/-- By induction on a value: what holds of a container as soon as it holds of its parts. -/
theorem Value.inductionOnParts {motive : Value → Prop}
    (scalar : ∀ value : Value, value.IsScalar → motive value)
    (array : ∀ items, (∀ item ∈ items, motive item) → motive (.array items))
    (object : ∀ members, (∀ member ∈ members, motive member.2) → motive (.object members))
    (value : Value) : motive value :=
  @Value.rec motive (fun items => ∀ item ∈ items, motive item)
    (fun members => ∀ member ∈ members, motive member.2) (fun member => motive member.2)
    (scalar _ trivial) (fun _ => scalar _ trivial) (fun _ => scalar _ trivial)
    (fun _ => scalar _ trivial) array object
    nofun (fun _ _ first others => List.forall_mem_cons.mpr ⟨first, others⟩)
    nofun (fun _ _ first others => List.forall_mem_cons.mpr ⟨first, others⟩)
    (fun _ _ holds => holds) value

/-- The keys of every object, at whatever depth, are as asked for. -/
inductive Value.EveryObject (asked : List String → Prop) : Value → Prop
  | scalar {value : Value} (isScalar : value.IsScalar) : EveryObject asked value
  | array {items : List Value} (each : ∀ item ∈ items, EveryObject asked item) :
      EveryObject asked (.array items)
  | object {members : List (String × Value)} (keys : asked (members.map Prod.fst))
      (each : ∀ member ∈ members, EveryObject asked member.2) :
      EveryObject asked (.object members)

/-- The same value but for the order in which objects list their members. Arrays keep the order of
their items, and what is no container is the same. -/
inductive Value.Alike : Value → Value → Prop
  | scalar {value : Value} (isScalar : value.IsScalar) : Alike value value
  | array {items others : List Value} (each : List.Forall₂ Alike items others) :
      Alike (.array items) (.array others)
  /-- The members of the first object are one by one those of the second in some order. -/
  | object {members others listed : List (String × Value)} (order : listed.Perm others)
      (keys : members.map Prod.fst = listed.map Prod.fst)
      (values : List.Forall₂ Alike (members.map Prod.snd) (listed.map Prod.snd)) :
      Alike (.object members) (.object others)

/-- The keys are in ascending order of their UTF-8 bytes, and none of them stands twice. -/
def KeysAscend (keys : List String) : Prop :=
  (keys.map utf8).Pairwise (· < ·)

theorem keysAscend_iff {keys : List String} : KeysAscend keys ↔ Ascending keys := by
  rw [KeysAscend, List.pairwise_map]
  exact List.Pairwise.iff fun first second => before_bytes_iff.symm

variable {value other : Value}

/-! ### Values that have their keys in order -/

theorem Value.NamesOnce.of_item {items : List Value} (once : (Value.array items).NamesOnce) :
    ∀ item ∈ items, item.NamesOnce := by
  obtain ⟨depth, fits⟩ := once
  cases depth with
  | zero => exact fits.elim
  | succ depth => exact fun item isItem => ⟨depth, Value.allFit_iff.mp fits item isItem⟩

/-- Sorting puts the keys of every object in order. -/
theorem Value.NamesOnce.keysAscend_sortKeys (once : value.NamesOnce) :
    value.sortKeys.EveryObject KeysAscend := by
  induction value using Value.inductionOnParts with
  | scalar value isScalar => exact .scalar (Value.isScalar_sortKeys_iff.mpr isScalar)
  | array items inductionHypothesis =>
    rw [Value.sortKeys, Value.sortItems_eq]
    exact .array (List.forall_mem_map.mpr fun item isItem =>
      inductionHypothesis item isItem (once.of_item item isItem))
  | object members inductionHypothesis =>
    rw [Value.sortKeys]
    refine .object ?_ fun member isMember => ?_
    · rw [keysAscend_iff, Value.sortMembers_eq, Ascending, List.pairwise_map]
      refine pairwise_before_sortBy Prod.fst ?_
      rw [Value.map_fst_sortMember]
      exact once.nodup_keys
    · obtain ⟨written, isWritten, rfl⟩ :=
        List.mem_map.mp ((Value.sortMembers_perm members).mem_iff.mp isMember)
      exact inductionHypothesis written isWritten (once.of_mem isWritten)

/-- Sorting changes nothing where the keys are in order. -/
theorem Value.EveryObject.sortKeys_eq (ascend : value.EveryObject KeysAscend) :
    value.sortKeys = value := by
  induction ascend with
  | scalar isScalar => exact isScalar.sortKeys_eq
  | @array items _ inductionHypothesis =>
    rw [Value.sortKeys, Value.sortItems_eq, List.map_congr_left inductionHypothesis, List.map_id']
  | @object members keys _ inductionHypothesis =>
    have same : members.map Value.sortMember = members := by
      refine (List.map_congr_left fun member isMember => ?_).trans (List.map_id' members)
      rw [Value.sortMember, inductionHypothesis member isMember]
    rw [keysAscend_iff, Ascending, List.pairwise_map] at keys
    rw [Value.sortKeys, Value.sortMembers_eq, same,
      sortBy_of_ascends Prod.fst (keys.imp fun ordered => KeyOrder.asymm ordered)]

/-! ### Values that are alike -/

/-- Lists are alike item by item if each item comes to the same as the one it is alike. -/
theorem forall₂_alike_iff {items others : List Value}
    (each : ∀ item ∈ items, ∀ other : Value, item.Alike other ↔ item.sortKeys = other.sortKeys) :
    List.Forall₂ Value.Alike items others ↔
      items.map Value.sortKeys = others.map Value.sortKeys := by
  have pairs : List.Forall₂ Value.Alike items others ↔
      List.Forall₂ (fun item other : Value => item.sortKeys = other.sortKeys) items others := by
    constructor
    · intro alike
      exact ((List.forall₂_and_left _ _).mpr ⟨each, alike⟩).imp fun _ other both =>
        (both.1 other).mp both.2
    · intro same
      exact ((List.forall₂_and_left _ _).mpr ⟨each, same⟩).imp fun _ other both =>
        (both.1 other).mpr both.2
  rw [pairs, ← List.forall₂_eq_eq_eq, List.forall₂_map_left_iff, List.forall₂_map_right_iff]

/-- Members come to the same if they have the same keys and their values come to the same. -/
theorem Value.map_sortMember_eq_iff {members listed : List (String × Value)} :
    members.map Value.sortMember = listed.map Value.sortMember ↔
      members.map Prod.fst = listed.map Prod.fst ∧
        (members.map Prod.snd).map Value.sortKeys = (listed.map Prod.snd).map Value.sortKeys := by
  have paired (members : List (String × Value)) : members.map Value.sortMember =
      (members.map Prod.fst).zip ((members.map Prod.snd).map Value.sortKeys) := by
    rw [List.map_map, List.zip_map']
    rfl
  have values (members : List (String × Value)) : (members.map Value.sortMember).map Prod.snd =
      (members.map Prod.snd).map Value.sortKeys := by
    rw [List.map_map, List.map_map]
    rfl
  constructor
  · intro same
    rw [← Value.map_fst_sortMember, ← Value.map_fst_sortMember listed, ← values, ← values, same]
    exact ⟨rfl, rfl⟩
  · rintro ⟨keys, values⟩
    rw [paired, paired, keys, values]

theorem Value.alike_iff_of_isScalar (isScalar : value.IsScalar) :
    value.Alike other ↔ value.sortKeys = other.sortKeys := by
  constructor
  · intro alike
    cases alike with
    | scalar => rfl
    | array => exact isScalar.elim
    | object => exact isScalar.elim
  · intro same
    rw [isScalar.sortKeys_eq] at same
    have otherScalar : other.IsScalar := Value.isScalar_sortKeys_iff.mp (same ▸ isScalar)
    rw [otherScalar.sortKeys_eq] at same
    exact same ▸ .scalar isScalar

/-- Values are alike just when sorting their keys brings them to the same. -/
theorem Value.NamesOnce.alike_iff (once : value.NamesOnce) :
    value.Alike other ↔ value.sortKeys = other.sortKeys := by
  induction value using Value.inductionOnParts generalizing other with
  | scalar value isScalar => exact Value.alike_iff_of_isScalar isScalar
  | array items inductionHypothesis =>
    have each : ∀ item ∈ items, ∀ other : Value,
        item.Alike other ↔ item.sortKeys = other.sortKeys :=
      fun item isItem _ => inductionHypothesis item isItem (once.of_item item isItem)
    constructor
    · intro alike
      cases alike with
      | scalar => rfl
      | array alike =>
        rw [Value.sortKeys, Value.sortKeys, Value.sortItems_eq, Value.sortItems_eq,
          (forall₂_alike_iff each).mp alike]
    · intro same
      cases other with
      | array others =>
        rw [Value.sortKeys, Value.sortKeys, Value.sortItems_eq, Value.sortItems_eq] at same
        exact .array ((forall₂_alike_iff each).mpr (Value.array.inj same))
      | _ => simp [Value.sortKeys] at same
  | object members inductionHypothesis =>
    have each : ∀ item ∈ members.map Prod.snd, ∀ other : Value,
        item.Alike other ↔ item.sortKeys = other.sortKeys :=
      List.forall_mem_map.mpr fun member isMember _ =>
        inductionHypothesis member isMember (once.of_mem isMember)
    constructor
    · intro alike
      cases alike with
      | scalar => rfl
      | @object _ others listed order keys values =>
        have same : members.map Value.sortMember = listed.map Value.sortMember :=
          Value.map_sortMember_eq_iff.mpr ⟨keys, (forall₂_alike_iff each).mp values⟩
        have distinct : ((members.map Value.sortMember).map Prod.fst).Nodup := by
          rw [Value.map_fst_sortMember]
          exact once.nodup_keys
        rw [Value.sortKeys, Value.sortKeys, Value.sortMembers_eq, Value.sortMembers_eq,
          sortBy_eq_of_perm Prod.fst distinct (same ▸ order.map Value.sortMember)]
    · intro same
      cases other with
      | object others =>
        rw [Value.sortKeys, Value.sortKeys] at same
        have sorted : (members.map Value.sortMember).Perm (others.map Value.sortMember) :=
          (Value.sortMembers_perm members).symm.trans
            (Value.object.inj same ▸ Value.sortMembers_perm others)
        -- The second object's members can be put into the order of the first one's.
        obtain ⟨listed, listedSame, order⟩ :
            Relation.Comp (· = List.map Value.sortMember ·) List.Perm
              (members.map Value.sortMember) others := by
          rw [List.eq_map_comp_perm]
          exact sorted
        obtain ⟨keys, values⟩ := Value.map_sortMember_eq_iff.mp listedSame
        exact .object order keys ((forall₂_alike_iff each).mpr values)
      | _ => simp [Value.sortKeys] at same

/-! ### Values that are read -/

theorem mem_keys_putMember {key other : String} {value : Value} {members : List (String × Value)}
    (isKey : other ∈ (Tree.putMember key value members).map Prod.fst) :
    other = key ∨ other ∈ members.map Prod.fst := by
  induction members with
  | nil => exact .inl (List.mem_singleton.mp isKey)
  | cons member rest inductionHypothesis =>
    rw [Tree.putMember] at isKey
    split at isKey
    · rcases List.mem_cons.mp isKey with same | inRest
      · exact .inl same
      · exact .inr (List.mem_cons_of_mem _ inRest)
    · rcases List.mem_cons.mp isKey with same | inRest
      · exact .inr (List.mem_cons.mpr (.inl same))
      · exact (inductionHypothesis inRest).imp_right (List.mem_cons_of_mem _)

/-- A member with a key that is there already takes its place. -/
theorem nodup_putMember {members : List (String × Value)}
    (distinct : (members.map Prod.fst).Nodup) (key : String) (value : Value) :
    ((Tree.putMember key value members).map Prod.fst).Nodup := by
  induction members with
  | nil => exact List.nodup_singleton key
  | cons member rest inductionHypothesis =>
    obtain ⟨fresh, restDistinct⟩ := List.nodup_cons.mp distinct
    rw [Tree.putMember]
    split
    next same => exact List.nodup_cons.mpr ⟨same ▸ fresh, restDistinct⟩
    next different =>
      refine List.nodup_cons.mpr ⟨fun isKey => ?_, inductionHypothesis restDistinct⟩
      exact (mem_keys_putMember isKey).elim different fresh

theorem membersFit_putMember {depth : Nat} {members : List (String × Value)}
    (fit : Value.MembersFit depth members) {key : String} {value : Value}
    (fits : value.Fits depth) : Value.MembersFit depth (Tree.putMember key value members) := by
  induction members with
  | nil => exact ⟨fits, trivial⟩
  | cons member rest inductionHypothesis =>
    rw [Tree.putMember]
    split
    next => exact ⟨fits, fit.2⟩
    next => exact ⟨fit.1, inductionHypothesis fit.2⟩

mutual

/-- What is read is nested no more deeply than allowed, and names no member of an object twice. -/
theorem Tree.fits_of_value? : (tree : Tree) → {depth : Nat} → {value : Value} →
    tree.value? depth = some value → value.Fits depth
  | .null, _, _, rfl | .bool _, _, _, rfl => trivial
  | .number _, _, _, read => by
    obtain ⟨amount, _, rfl⟩ := Option.map_eq_some_iff.mp read
    trivial
  | .string _, _, _, read => by
    obtain ⟨text, _, rfl⟩ := Option.map_eq_some_iff.mp read
    trivial
  | .array _, 0, _, read => nomatch read
  | .array trees, depth + 1, _, read => by
    obtain ⟨items, itemsRead, rfl⟩ := Option.map_eq_some_iff.mp read
    exact Tree.allFit_of_items? trees itemsRead
  | .object _, 0, _, read => nomatch read
  | .object trees, depth + 1, _, read => by
    obtain ⟨members, membersRead, rfl⟩ := Option.map_eq_some_iff.mp read
    exact Tree.membersFit_of_members? trees membersRead List.nodup_nil trivial
termination_by structural tree => tree

theorem Tree.allFit_of_items? : (trees : List Tree) → {depth : Nat} → {items : List Value} →
    Tree.items? depth trees = some items → Value.AllFit depth items
  | [], _, _, rfl => trivial
  | tree :: rest, _, _, read => by
    obtain ⟨item, itemRead, read⟩ := Option.bind_eq_some_iff.mp read
    obtain ⟨items, restRead, read⟩ := Option.bind_eq_some_iff.mp read
    obtain rfl := Option.some.inj read
    exact ⟨Tree.fits_of_value? tree itemRead, Tree.allFit_of_items? rest restRead⟩
termination_by structural trees => trees

theorem Tree.membersFit_of_members? : (trees : List (Option String × Tree)) → {depth : Nat} →
    {earlier members : List (String × Value)} →
    Tree.members? depth trees earlier = some members → (earlier.map Prod.fst).Nodup →
    Value.MembersFit depth earlier →
      (members.map Prod.fst).Nodup ∧ Value.MembersFit depth members
  | [], _, _, _, rfl, distinct, fit => ⟨distinct, fit⟩
  | (key, tree) :: rest, _, _, _, read, distinct, fit => by
    obtain ⟨key, _, read⟩ := Option.bind_eq_some_iff.mp read
    obtain ⟨value, valueRead, read⟩ := Option.bind_eq_some_iff.mp read
    exact Tree.membersFit_of_members? rest read (nodup_putMember distinct key value)
      (membersFit_putMember fit (Tree.fits_of_value? tree valueRead))
termination_by structural trees => trees

end

/-- A text is read as a value that names no member of an object twice. -/
theorem Value.namesOnce_of_parse? {text : String} (read : Value.parse? text = some value) :
    value.NamesOnce := by
  obtain ⟨tree, _, read⟩ := Option.bind_eq_some_iff.mp read
  exact ⟨Tree.nestingLimit, tree.fits_of_value? read⟩

/-! ### The canonical form -/

/-- Sorting the keys of a value that names no member twice gives a canonical form. At every depth
the keys of objects ascend in the order of their bytes. The value is the same but for the order of
its members, and sorting it once more changes nothing. Two values come to the same just when they
are the same but for the order of their members, and then their texts are the same. -/
theorem Value.sortKeys_canonical (once : value.NamesOnce) :
    value.sortKeys.EveryObject KeysAscend ∧
    value.Alike value.sortKeys ∧
    value.sortKeys.sortKeys = value.sortKeys ∧
    (∀ other : Value, value.Alike other ↔ value.sortKeys = other.sortKeys) ∧
    ∀ other : Value, value.Alike other → value.sortKeys.compact = other.sortKeys.compact := by
  have ascend := once.keysAscend_sortKeys
  have again : value.sortKeys.sortKeys = value.sortKeys := ascend.sortKeys_eq
  exact ⟨ascend, once.alike_iff.mpr again.symm, again, fun _ => once.alike_iff,
    fun _ alike => congrArg Value.compact (once.alike_iff.mp alike)⟩

/-- Objects inside an object, next to each other and in an array. -/
def nestedDocument : Value :=
  .object [
    ("b", .object [("z", .word 1), ("a", .word 2)]),
    ("a", .array [.object [("y", .word 1), ("x", .word 2)]])]

/-- The same document, in which two of the three objects list their members in another order. -/
def reorderedDocument : Value :=
  .object [
    ("a", .array [.object [("x", .word 2), ("y", .word 1)]]),
    ("b", .object [("z", .word 1), ("a", .word 2)])]

theorem Value.parse?_nestedDocument :
    Value.parse?
        "\x7b\"b\":\x7b\"z\":1,\"a\":2\x7d,\"a\":[\x7b\"y\":1,\"x\":2\x7d]\x7d" =
      some nestedDocument := by
  cbv

theorem Value.alike_reorderedDocument : nestedDocument.Alike reorderedDocument := by
  have words {first second : UInt64} :
      List.Forall₂ Value.Alike [.word first, .word second] [.word first, .word second] :=
    .cons (.scalar trivial) (.cons (.scalar trivial) .nil)
  have inner : Value.Alike (.object [("y", .word 1), ("x", .word 2)])
      (.object [("x", .word 2), ("y", .word 1)]) :=
    .object (.swap _ _ _) rfl words
  exact .object (.swap _ _ _) rfl
    (.cons (.object (.refl _) rfl words) (.cons (.array (.cons inner .nil)) .nil))

theorem Value.sortKeys_canonical_nestedDocument :
    nestedDocument.NamesOnce ∧ nestedDocument.Alike reorderedDocument ∧
      nestedDocument.sortKeys.EveryObject KeysAscend ∧
      nestedDocument.sortKeys.compact = reorderedDocument.sortKeys.compact := by
  have once : nestedDocument.NamesOnce := Value.namesOnce_of_parse? Value.parse?_nestedDocument
  obtain ⟨ascend, _, _, _, sameText⟩ := Value.sortKeys_canonical once
  exact ⟨once, Value.alike_reorderedDocument, ascend, sameText _ Value.alike_reorderedDocument⟩

end TokenLedger.Json
