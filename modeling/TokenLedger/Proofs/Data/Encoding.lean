/-
This file proves that a map by texts can be kept as a store of bytes: each key as its UTF-8 bytes,
each value in an encoded form. Texts are ordered by their bytes, so the entries of the store are
those of the map in the same order, and every operation on the map is the same operation on the
store. Bytes that are no text are never a key.
-/

import Mathlib
import TokenLedger.Proofs.Data.Bindings
import TokenLedger.Store.Layered

namespace TokenLedger.SortedMap

variable {α : Type} (encode : α → Bytes)

/-- The store that keeps a map by texts. -/
def stored (map : SortedMap String α) : Store :=
  ⟨map.entries.map fun entry => (utf8 entry.1, encode entry.2),
    List.pairwise_map.mpr map.ascending⟩

@[simp] theorem entries_stored (map : SortedMap String α) :
    (map.stored encode).entries = map.entries.map fun entry => (utf8 entry.1, encode entry.2) :=
  rfl

theorem find?_map_utf8 (entries : List (String × α)) (key : String) :
    find? (utf8 key) (entries.map fun entry => (utf8 entry.1, encode entry.2)) =
      (find? key entries).map encode := by
  induction entries with
  | nil => rfl
  | cons entry rest inductionHypothesis =>
    obtain ⟨bound, value⟩ := entry
    by_cases same : bound = key
    · rw [List.map_cons, find?, find?, same, if_pos rfl, if_pos rfl, Option.map_some]
    · have distinct : utf8 bound ≠ utf8 key := fun bytes => same (utf8_injective bytes)
      rw [List.map_cons, find?, find?, if_neg distinct, if_neg same, inductionHypothesis]

/-- A text is looked up under its bytes. -/
@[simp] theorem get?_stored (map : SortedMap String α) (key : String) :
    (map.stored encode).get? (utf8 key) = (map.get? key).map encode :=
  find?_map_utf8 encode map.entries key

@[simp] theorem contains_stored (map : SortedMap String α) (key : String) :
    (map.stored encode).contains (utf8 key) = map.contains key := by
  rw [contains_eq_isSome, contains_eq_isSome, get?_stored, Option.isSome_map]

/-- Bytes that are no text have no value. -/
theorem get?_stored_of_forall_ne (map : SortedMap String α) {key : Bytes}
    (noText : ∀ text, utf8 text ≠ key) : (map.stored encode).get? key = none := by
  cases found : (map.stored encode).get? key with
  | none => rfl
  | some bytes =>
    obtain ⟨entry, _, same⟩ := List.mem_map.mp (mem_of_find? found)
    exact absurd (congrArg Prod.fst same) (noText entry.1)

/-- Stores of maps are equal when they agree on the bytes of texts and have no other keys. -/
theorem eq_stored {store : Store} {map : SortedMap String α}
    (texts : ∀ key, store.get? (utf8 key) = (map.get? key).map encode)
    (others : ∀ key, (∀ text, utf8 text ≠ key) → store.get? key = none) :
    store = map.stored encode := by
  refine ext_get? fun key => ?_
  by_cases isText : ∃ text, utf8 text = key
  · obtain ⟨text, rfl⟩ := isText
    rw [texts, get?_stored]
  · have noText : ∀ text, utf8 text ≠ key := fun text same => isText ⟨text, same⟩
    rw [others key noText, get?_stored_of_forall_ne encode map noText]

/-- Binding a text is binding its bytes. -/
theorem stored_insert (map : SortedMap String α) (key : String) (value : α) :
    (map.insert key value).stored encode =
      (map.stored encode).insert (utf8 key) (encode value) := by
  symm
  refine eq_stored encode (fun other => ?_) (fun other noText => ?_)
  · rw [get?_insert, get?_insert, get?_stored]
    by_cases same : other = key
    · rw [if_pos same, if_pos (congrArg utf8 same), Option.map_some]
    · rw [if_neg same, if_neg fun bytes => same (utf8_injective bytes)]
  · rw [get?_insert, if_neg (noText key).symm, get?_stored_of_forall_ne encode map noText]

/-- Dropping a text is dropping its bytes. -/
theorem stored_erase (map : SortedMap String α) (key : String) :
    (map.erase key).stored encode = (map.stored encode).erase (utf8 key) := by
  symm
  refine eq_stored encode (fun other => ?_) (fun other noText => ?_)
  · rw [get?_erase, get?_erase, get?_stored]
    by_cases same : other = key
    · rw [if_pos same, if_pos (congrArg utf8 same), Option.map_none]
    · rw [if_neg same, if_neg fun bytes => same (utf8_injective bytes)]
  · rw [get?_erase, get?_stored_of_forall_ne encode map noText, ite_self]

end TokenLedger.SortedMap
