/-
Stores with layers of pending writes. A store maps keys to values, both strings of bytes. Over it
there can be layers, the innermost first, that hold writes not yet made: a layer answers for the
keys it has written and leaves the others to what is below. Ending a layer either makes its writes
one level further down or forgets them.
-/

import TokenLedger.Data.SortedMap

namespace TokenLedger

/-- What is stored, by key. -/
abbrev Store := SortedMap Bytes Bytes

/-- Pending writes by key; nothing marks a key that is to be removed. -/
abbrev Layer := SortedMap Bytes (Option Bytes)

/-- A store with layers of pending writes, the innermost first. -/
structure LayeredStore where
  base : Store
  layers : List Layer
  deriving DecidableEq

namespace Layer

/-- The value under a key, where the layer's answer goes before the one from below. -/
def look (layer : Layer) (key : Bytes) (below : Option Bytes) : Option Bytes :=
  match layer.get? key with
  | some pending => pending
  | none => below

/-- Whether a key has a value, where the layer's answer goes before the one from below. -/
def has (layer : Layer) (key : Bytes) (below : Bool) : Bool :=
  match layer.get? key with
  | some pending => pending.isSome
  | none => below

/-- One pending write carried out. -/
def applyEntry (store : Store) (entry : Bytes × Option Bytes) : Store :=
  match entry.2 with
  | some value => store.insert entry.1 value
  | none => store.erase entry.1

/-- A store after all pending writes, in key order. -/
def applyTo (layer : Layer) (store : Store) : Store :=
  layer.entries.foldl applyEntry store

end Layer

namespace LayeredStore

/-- A store without layers. -/
def ofStore (store : Store) : LayeredStore := ⟨store, []⟩

/-- The number of layers. -/
def depth (store : LayeredStore) : Nat := store.layers.length

/-- The number of writes pending in the innermost layer. -/
def pendingCount (store : LayeredStore) : Nat :=
  match store.layers with
  | [] => 0
  | layer :: _ => layer.size

/-- The value under a key, as the innermost layer sees it. -/
def get? (store : LayeredStore) (key : Bytes) : Option Bytes :=
  store.layers.foldr (fun layer below => layer.look key below) (store.base.get? key)

/-- Whether a key has a value, as the innermost layer sees it. -/
def contains (store : LayeredStore) (key : Bytes) : Bool :=
  store.layers.foldr (fun layer below => layer.has key below) (store.base.contains key)

/-- Write a value into the innermost layer. -/
def set (store : LayeredStore) (key value : Bytes) : LayeredStore :=
  match store.layers with
  | [] => { store with base := store.base.insert key value }
  | layer :: rest => { store with layers := layer.insert key (some value) :: rest }

/-- Remove a key in the innermost layer. -/
def delete (store : LayeredStore) (key : Bytes) : LayeredStore :=
  match store.layers with
  | [] => { store with base := store.base.erase key }
  | layer :: rest => { store with layers := layer.insert key none :: rest }

/-- The store with all pending writes made, as the innermost layer sees it. -/
def view (store : LayeredStore) : Store :=
  store.layers.foldr Layer.applyTo store.base

/-- All keys with their values, in key order. -/
def entries (store : LayeredStore) : List (Bytes × Bytes) :=
  store.view.entries

/-- Open a layer. -/
def begin (store : LayeredStore) : LayeredStore :=
  { store with layers := SortedMap.empty :: store.layers }

/-- One pending write made at the innermost level. -/
def write (store : LayeredStore) (entry : Bytes × Option Bytes) : LayeredStore :=
  match entry.2 with
  | some value => store.set entry.1 value
  | none => store.delete entry.1

/-- End the innermost layer and make its writes, in key order, one level further down. -/
def commit (store : LayeredStore) : LayeredStore :=
  match store.layers with
  | [] => store
  | layer :: rest => layer.entries.foldl write { store with layers := rest }

/-- End the innermost layer and forget its writes. -/
def discard (store : LayeredStore) : LayeredStore :=
  { store with layers := store.layers.tail }

end LayeredStore

end TokenLedger
