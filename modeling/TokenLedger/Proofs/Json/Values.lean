/-
This file proves that a value is read back from its compact text, as long as no object names a
member twice and the value is not nested more deeply than is read. Sorting the keys of a value
changes neither of the two.
-/

import Mathlib
import TokenLedger.Json.Record
import TokenLedger.Proofs.Data.Ordering
import TokenLedger.Proofs.Json.Documents

namespace TokenLedger.Json

mutual

/-- The value is nested at most as deeply as given, and no object names a member twice. -/
def Value.Fits (depth : Nat) : Value → Prop
  | .null | .bool _ | .number _ | .string _ => True
  | .array items =>
    match depth with
    | 0 => False
    | depth + 1 => Value.AllFit depth items
  | .object members =>
    match depth with
    | 0 => False
    | depth + 1 => (members.map Prod.fst).Nodup ∧ Value.MembersFit depth members
termination_by structural value => value

def Value.AllFit (depth : Nat) : List Value → Prop
  | [] => True
  | item :: rest => item.Fits depth ∧ Value.AllFit depth rest
termination_by structural items => items

def Value.MembersFit (depth : Nat) : List (String × Value) → Prop
  | [] => True
  | (_, value) :: rest => value.Fits depth ∧ Value.MembersFit depth rest
termination_by structural members => members

end

theorem Value.allFit_iff {depth : Nat} {items : List Value} :
    Value.AllFit depth items ↔ ∀ item ∈ items, item.Fits depth := by
  induction items with
  | nil => simp [Value.AllFit]
  | cons item rest inductionHypothesis =>
    rw [Value.AllFit, inductionHypothesis, List.forall_mem_cons]

theorem Value.membersFit_iff {depth : Nat} {members : List (String × Value)} :
    Value.MembersFit depth members ↔ ∀ member ∈ members, member.2.Fits depth := by
  induction members with
  | nil => simp [Value.MembersFit]
  | cons member rest inductionHypothesis =>
    rw [Value.MembersFit, inductionHypothesis, List.forall_mem_cons]

theorem Value.itemTrees_eq (items : List Value) : Value.itemTrees items = items.map Value.tree := by
  induction items with
  | nil => rfl
  | cons item rest inductionHypothesis => rw [Value.itemTrees, inductionHypothesis, List.map_cons]

theorem Value.sortItems_eq (items : List Value) :
    Value.sortItems items = items.map Value.sortKeys := by
  induction items with
  | nil => rfl
  | cons item rest inductionHypothesis => rw [Value.sortItems, inductionHypothesis, List.map_cons]

theorem Tree.items?_eq (depth : Nat) (trees : List Tree) :
    Tree.items? depth trees = trees.mapM (Tree.value? depth) := by
  induction trees with
  | nil => rfl
  | cons tree rest inductionHypothesis =>
    rw [Tree.items?, List.mapM_cons, inductionHypothesis]

theorem Value.allOnlyWords_iff {items : List Value} :
    Value.AllOnlyWords items ↔ ∀ item ∈ items, item.OnlyWords := by
  induction items with
  | nil => simp [Value.AllOnlyWords]
  | cons item rest inductionHypothesis =>
    rw [Value.AllOnlyWords, inductionHypothesis, List.forall_mem_cons]

theorem Value.membersOnlyWords_iff {members : List (String × Value)} :
    Value.MembersOnlyWords members ↔ ∀ member ∈ members, member.2.OnlyWords := by
  induction members with
  | nil => simp [Value.MembersOnlyWords]
  | cons member rest inductionHypothesis =>
    rw [Value.MembersOnlyWords, inductionHypothesis, List.forall_mem_cons]

theorem Value.word?_tree_word (word : UInt64) : (Value.word word).tree.word? = some word := by
  rw [Value.word, Value.tree, Tree.word?, Number.word?_ofWord]

theorem Value.shortWord?_tree_word (word : UInt32) :
    (Value.word word.toUInt64).tree.shortWord? = some word := by
  have small : word.toUInt64.toNat < UInt32.size := by
    rw [UInt32.toNat_toUInt64]
    exact word.toNat_lt_size
  rw [Tree.shortWord?, Value.word?_tree_word]
  rw [Option.bind_eq_bind, Option.bind_some, if_pos small, UInt32.toUInt32_toUInt64]

theorem Record.required_of_field? {α : Type} {record : Record} {name : String} {tree : Tree}
    {read : Tree → Option α} {value : α} (found : record.field? name = some tree)
    (reads : read tree = some value) : record.required name read = some value := by
  rw [Record.required, found]
  exact reads

/-- The items of an array are read back one by one. -/
theorem Tree.list?_array {α : Type} {read : Tree → Option α} {written : α → Value}
    (readBack : ∀ record, read (written record).tree = some record) (records : List α) :
    (Value.array (records.map written)).tree.list? read = some records := by
  rw [Value.tree, Tree.list?, Value.itemTrees_eq]
  induction records with
  | nil => rfl
  | cons record rest inductionHypothesis =>
    rw [List.map_cons, List.map_cons, List.mapM_cons, readBack, inductionHypothesis]
    rfl

theorem putMember_of_fresh {key : String} {members : List (String × Value)}
    (fresh : key ∉ members.map Prod.fst) (value : Value) :
    Tree.putMember key value members = members ++ [(key, value)] := by
  induction members with
  | nil => rfl
  | cons member rest inductionHypothesis =>
    rw [List.map_cons, List.mem_cons, not_or] at fresh
    rw [Tree.putMember, if_neg fun same => fresh.1 same.symm, inductionHypothesis fresh.2]
    rfl

mutual

theorem Value.value?_tree : (value : Value) → (depth : Nat) → value.Fits depth →
    value.tree.value? depth = some value
  | .null, _, _ => rfl
  | .bool _, _, _ => rfl
  | .number _, _, _ => rfl
  | .string _, _, _ => rfl
  | .array items, 0, fits => fits.elim
  | .array items, depth + 1, fits => by
    rw [Value.tree, Tree.value?, Value.items?_itemTrees items depth fits]
    rfl
  | .object members, 0, fits => fits.elim
  | .object members, depth + 1, fits => by
    rw [Value.tree, Tree.value?, Value.members?_memberTrees members depth [] fits.2]
    · rfl
    · rw [List.map_nil, List.nil_append]
      exact fits.1
termination_by structural value => value

theorem Value.items?_itemTrees : (items : List Value) → (depth : Nat) →
    Value.AllFit depth items → Tree.items? depth (Value.itemTrees items) = some items
  | [], _, _ => rfl
  | item :: rest, depth, fits => by
    rw [Value.itemTrees, Tree.items?, Value.value?_tree item depth fits.1,
      Value.items?_itemTrees rest depth fits.2]
    rfl
termination_by structural items => items

theorem Value.members?_memberTrees : (members : List (String × Value)) → (depth : Nat) →
    (earlier : List (String × Value)) → Value.MembersFit depth members →
    (earlier.map Prod.fst ++ members.map Prod.fst).Nodup →
    Tree.members? depth (Value.memberTrees members) earlier = some (earlier ++ members)
  | [], _, earlier, _, _ => by
    rw [List.append_nil]
    rfl
  | (key, value) :: rest, depth, earlier, fits, distinct => by
    have fresh : key ∉ earlier.map Prod.fst := by
      intro found
      rw [List.map_cons] at distinct
      exact (List.nodup_append.mp distinct).2.2 key found key List.mem_cons_self rfl
    have together : ((earlier ++ [(key, value)]).map Prod.fst ++ rest.map Prod.fst).Nodup := by
      rw [List.map_append, List.append_assoc]
      exact distinct
    rw [Value.memberTrees, Tree.members?]
    simp only [Option.bind_eq_bind, Option.bind_some, Value.value?_tree value depth fits.1,
      putMember_of_fresh fresh, Value.members?_memberTrees rest depth _ fits.2 together,
      List.append_assoc, List.singleton_append]
termination_by structural members => members

end

/-- A value is read back from its compact text. -/
theorem Value.parse?_compact {value : Value} (words : value.OnlyWords)
    (fits : value.Fits Tree.nestingLimit) : Value.parse? value.compact = some value := by
  rw [Value.parse?, Tree.parse?_compact words]
  exact value.value?_tree Tree.nestingLimit fits

/-! ### Sorted keys -/

/-- A member with the keys of its value sorted. -/
def Value.sortMember (member : String × Value) : String × Value :=
  (member.1, member.2.sortKeys)

theorem Value.sortMembers_eq (members : List (String × Value)) :
    Value.sortMembers members = sortBy Prod.fst (members.map Value.sortMember) := by
  induction members with
  | nil => rfl
  | cons member rest inductionHypothesis =>
    rw [Value.sortMembers, inductionHypothesis]
    rfl

theorem Value.sortMembers_perm (members : List (String × Value)) :
    (Value.sortMembers members).Perm (members.map Value.sortMember) := by
  rw [Value.sortMembers_eq]
  exact sortBy_perm Prod.fst _

theorem Value.map_fst_sortMember (members : List (String × Value)) :
    (members.map Value.sortMember).map Prod.fst = members.map Prod.fst := by
  rw [List.map_map]
  rfl

theorem Value.keys_sortMembers_perm (members : List (String × Value)) :
    ((Value.sortMembers members).map Prod.fst).Perm (members.map Prod.fst) := by
  have keys := (Value.sortMembers_perm members).map Prod.fst
  rwa [Value.map_fst_sortMember] at keys

theorem Value.membersOnlyWords_insertBy {member : String × Value}
    {members : List (String × Value)} :
    Value.MembersOnlyWords (insertBy Prod.fst member members) ↔
      member.2.OnlyWords ∧ Value.MembersOnlyWords members := by
  simp only [Value.membersOnlyWords_iff, (insertBy_perm Prod.fst member members).mem_iff,
    List.forall_mem_cons]

theorem Value.membersFit_insertBy {depth : Nat} {member : String × Value}
    {members : List (String × Value)} :
    Value.MembersFit depth (insertBy Prod.fst member members) ↔
      member.2.Fits depth ∧ Value.MembersFit depth members := by
  simp only [Value.membersFit_iff, (insertBy_perm Prod.fst member members).mem_iff,
    List.forall_mem_cons]

mutual

theorem Value.OnlyWords.sortKeys : {value : Value} → value.OnlyWords → value.sortKeys.OnlyWords
  | .null, words | .bool _, words | .number _, words | .string _, words => words
  | .array _, words => Value.AllOnlyWords.sortItems words
  | .object _, words => Value.MembersOnlyWords.sortMembers words
termination_by structural value => value

theorem Value.AllOnlyWords.sortItems : {items : List Value} → Value.AllOnlyWords items →
    Value.AllOnlyWords (Value.sortItems items)
  | [], _ => trivial
  | _ :: _, words => ⟨Value.OnlyWords.sortKeys words.1, Value.AllOnlyWords.sortItems words.2⟩
termination_by structural items => items

theorem Value.MembersOnlyWords.sortMembers : {members : List (String × Value)} →
    Value.MembersOnlyWords members → Value.MembersOnlyWords (Value.sortMembers members)
  | [], _ => trivial
  | _ :: _, words => Value.membersOnlyWords_insertBy.mpr
    ⟨Value.OnlyWords.sortKeys words.1, Value.MembersOnlyWords.sortMembers words.2⟩
termination_by structural members => members

end

mutual

theorem Value.Fits.sortKeys : {value : Value} → {depth : Nat} → value.Fits depth →
    value.sortKeys.Fits depth
  | .null, _, fits | .bool _, _, fits | .number _, _, fits | .string _, _, fits => fits
  | .array _, 0, fits => fits.elim
  | .array _, _ + 1, fits => Value.AllFit.sortItems fits
  | .object _, 0, fits => fits.elim
  | .object members, _ + 1, fits =>
    ⟨(Value.keys_sortMembers_perm members).nodup_iff.mpr fits.1,
      Value.MembersFit.sortMembers fits.2⟩
termination_by structural value => value

theorem Value.AllFit.sortItems : {items : List Value} → {depth : Nat} → Value.AllFit depth items →
    Value.AllFit depth (Value.sortItems items)
  | [], _, _ => trivial
  | _ :: _, _, fits => ⟨Value.Fits.sortKeys fits.1, Value.AllFit.sortItems fits.2⟩
termination_by structural items => items

theorem Value.MembersFit.sortMembers : {members : List (String × Value)} → {depth : Nat} →
    Value.MembersFit depth members → Value.MembersFit depth (Value.sortMembers members)
  | [], _, _ => trivial
  | _ :: _, _, fits => Value.membersFit_insertBy.mpr
    ⟨Value.Fits.sortKeys fits.1, Value.MembersFit.sortMembers fits.2⟩
termination_by structural members => members

end

end TokenLedger.Json
