/-
This file proves that a store with layers of pending writes behaves like the one store in which all
of them have been made, its view: look-ups, writes and listings of the layered store are those of
the view, and committing a layer leaves the view alone. It also shows that writes never reach below
the innermost layer, so that discarding a layer gives back exactly the store it was opened on.
-/

import Mathlib
import TokenLedger.Proofs.Data.Bindings
import TokenLedger.Store.Scope

namespace TokenLedger

/-! ### Carrying out pending writes -/

theorem Layer.get?_applyEntry (store : Store) (entry : Bytes × Option Bytes) (key : Bytes) :
    (Layer.applyEntry store entry).get? key =
      if key = entry.1 then entry.2 else store.get? key := by
  obtain ⟨written, pending⟩ := entry
  cases pending with
  | none => exact SortedMap.get?_erase store written key
  | some value => exact SortedMap.get?_insert store written key value

theorem Layer.get?_foldl_applyEntry {entries : List (Bytes × Option Bytes)}
    (distinct : (entries.map (·.1)).Nodup) (store : Store) (key : Bytes) :
    (entries.foldl Layer.applyEntry store).get? key =
      (SortedMap.find? key entries).getD (store.get? key) := by
  induction entries generalizing store with
  | nil => rfl
  | cons head rest inductionHypothesis =>
    obtain ⟨written, pending⟩ := head
    obtain ⟨fresh, restDistinct⟩ := List.nodup_cons.mp distinct
    rw [List.foldl_cons, inductionHypothesis restDistinct, Layer.get?_applyEntry, SortedMap.find?]
    by_cases same : key = written
    · have absent : SortedMap.find? key rest = none := by
        cases found : SortedMap.find? key rest with
        | none => rfl
        | some other =>
          exact absurd (List.mem_map_of_mem (SortedMap.mem_of_find? found)) (same ▸ fresh)
      rw [if_pos same, if_pos same.symm, absent]
      rfl
    · rw [if_neg same, if_neg fun converse => same converse.symm]

/-- After a layer's writes a key has what the layer says, or what it had. -/
theorem Layer.get?_applyTo (layer : Layer) (store : Store) (key : Bytes) :
    (layer.applyTo store).get? key = layer.look key (store.get? key) := by
  have looked : SortedMap.find? key layer.entries = layer.get? key := rfl
  rw [Layer.applyTo, Layer.get?_foldl_applyEntry (SortedMap.nodup_keys layer), looked, Layer.look]
  cases layer.get? key <;> rfl

theorem Layer.has_eq_isSome (layer : Layer) (key : Bytes) {held : Bool} {below : Option Bytes}
    (same : held = below.isSome) : layer.has key held = (layer.look key below).isSome := by
  rw [Layer.has, Layer.look]
  cases layer.get? key with
  | none => exact same
  | some pending => rfl

theorem Layer.applyTo_empty (store : Store) :
    Layer.applyTo SortedMap.empty store = store := rfl

/-- One more pending write is one more write carried out. -/
theorem Layer.applyTo_insert (layer : Layer) (store : Store) (key : Bytes)
    (pending : Option Bytes) :
    Layer.applyTo (layer.insert key pending) store =
      Layer.applyEntry (layer.applyTo store) (key, pending) := by
  refine SortedMap.ext_get? fun other => ?_
  rw [Layer.get?_applyEntry, Layer.get?_applyTo, Layer.get?_applyTo, Layer.look, Layer.look,
    SortedMap.get?_insert]
  by_cases same : other = key
  · rw [if_pos same, if_pos same]
  · rw [if_neg same, if_neg same]

namespace LayeredStore

/-! ### The view answers for the layers -/

@[simp] theorem view_ofStore (store : Store) : (ofStore store).view = store := rfl

theorem view_cons (base : Store) (layer : Layer) (rest : List Layer) :
    (LayeredStore.mk base (layer :: rest)).view = layer.applyTo (LayeredStore.mk base rest).view :=
  rfl

/-- Looking a key up is looking it up in the view. -/
theorem get?_eq_view (store : LayeredStore) (key : Bytes) :
    store.get? key = store.view.get? key := by
  obtain ⟨base, layers⟩ := store
  induction layers with
  | nil => rfl
  | cons layer rest inductionHypothesis =>
    rw [view_cons, Layer.get?_applyTo, ← inductionHypothesis]
    rfl

/-- Asking whether a key has a value is looking it up, on every level. -/
theorem contains_eq_isSome (store : LayeredStore) (key : Bytes) :
    store.contains key = (store.get? key).isSome := by
  obtain ⟨base, layers⟩ := store
  induction layers with
  | nil => rfl
  | cons layer rest inductionHypothesis => exact layer.has_eq_isSome key inductionHypothesis

theorem contains_eq_view (store : LayeredStore) (key : Bytes) :
    store.contains key = store.view.contains key := by
  rw [contains_eq_isSome, get?_eq_view, SortedMap.contains_eq_isSome]

@[simp] theorem view_begin (store : LayeredStore) : store.begin.view = store.view := by
  obtain ⟨base, layers⟩ := store
  rw [begin, view_cons, Layer.applyTo_empty]

/-- A write changes the view by that write. -/
theorem view_write (store : LayeredStore) (entry : Bytes × Option Bytes) :
    (store.write entry).view = Layer.applyEntry store.view entry := by
  obtain ⟨base, layers⟩ := store
  obtain ⟨key, pending⟩ := entry
  cases layers with
  | nil => cases pending <;> rfl
  | cons layer rest =>
    rw [view_cons, ← Layer.applyTo_insert]
    cases pending <;> rfl

@[simp] theorem view_set (store : LayeredStore) (key value : Bytes) :
    (store.set key value).view = store.view.insert key value :=
  view_write store (key, some value)

@[simp] theorem view_delete (store : LayeredStore) (key : Bytes) :
    (store.delete key).view = store.view.erase key :=
  view_write store (key, none)

theorem view_foldl_write (entries : List (Bytes × Option Bytes)) (store : LayeredStore) :
    (entries.foldl write store).view = entries.foldl Layer.applyEntry store.view := by
  induction entries generalizing store with
  | nil => rfl
  | cons entry rest inductionHypothesis =>
    rw [List.foldl_cons, inductionHypothesis, view_write, List.foldl_cons]

/-- Committing a layer leaves the view alone. -/
theorem view_commit (store : LayeredStore) : store.commit.view = store.view := by
  obtain ⟨base, layers⟩ := store
  cases layers with
  | nil => rfl
  | cons layer rest =>
    rw [commit, view_foldl_write, view_cons]
    rfl

/-! ### Writes stay in the innermost layer -/

/-- A single layer of pending writes over a store. -/
structure OneLayer (base : Store) (store : LayeredStore) : Prop where
  base_eq : store.base = base
  depth_eq : store.depth = 1

theorem oneLayer_begin (base : Store) : OneLayer base (ofStore base).begin := ⟨rfl, rfl⟩

theorem OneLayer.set {base : Store} {store : LayeredStore} (single : OneLayer base store)
    (key value : Bytes) : OneLayer base (store.set key value) := by
  obtain ⟨under, layers⟩ := store
  cases layers with
  | nil => cases single.depth_eq
  | cons layer rest => exact ⟨single.base_eq, single.depth_eq⟩

theorem OneLayer.delete {base : Store} {store : LayeredStore} (single : OneLayer base store)
    (key : Bytes) : OneLayer base (store.delete key) := by
  obtain ⟨under, layers⟩ := store
  cases layers with
  | nil => cases single.depth_eq
  | cons layer rest => exact ⟨single.base_eq, single.depth_eq⟩

/-- Discarding the layer gives back the store under it. -/
theorem OneLayer.discard_base {base : Store} {store : LayeredStore} (single : OneLayer base store) :
    store.discard.base = base := single.base_eq

theorem layers_foldl_write (entries : List (Bytes × Option Bytes)) (store : LayeredStore)
    (plain : store.layers = []) : (entries.foldl write store).layers = [] := by
  induction entries generalizing store with
  | nil => exact plain
  | cons entry rest inductionHypothesis =>
    apply inductionHypothesis
    obtain ⟨base, layers⟩ := store
    obtain ⟨key, pending⟩ := entry
    subst plain
    cases pending <;> rfl

/-- Committing the layer leaves the view and nothing pending. -/
theorem OneLayer.commit_base {base : Store} {store : LayeredStore} (single : OneLayer base store) :
    store.commit.base = store.view := by
  have nothingPending : store.commit.layers = [] := by
    obtain ⟨under, layers⟩ := store
    cases layers with
    | nil => rfl
    | cons layer rest =>
      have last : rest = [] := List.length_eq_zero_iff.mp (Nat.succ.inj single.depth_eq)
      subst last
      exact layers_foldl_write _ _ rfl
  calc store.commit.base
      = store.commit.view := by rw [view, nothingPending, List.foldr_nil]
    _ = store.view := view_commit store

end LayeredStore

end TokenLedger
