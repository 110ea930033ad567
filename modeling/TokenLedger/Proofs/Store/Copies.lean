/-
This file compares a store under layers of pending writes with a stack of full copies. Opening a
layer copies the innermost store, a write changes the innermost copy, committing puts it in the
place of the copy below, and discarding drops it. Each thing that is done keeps the two together,
and by induction every answer in a run is that of the copies. The layers hold only what was written,
so what each level shows has to be worked out through all the levels under it; that is the view of
the level.
-/

import Mathlib
import TokenLedger.Proofs.Data.Ordering
import TokenLedger.Proofs.Store.View

namespace TokenLedger

/-! ### What is done to a store -/

/-- What is done to a store, always on the innermost level. -/
inductive StoreAction where
  | begin
  | set (key value : Bytes)
  | delete (key : Bytes)
  | get (key : Bytes)
  | has (key : Bytes)
  | entries
  | commit
  | discard

/-- What a store answers. -/
inductive StoreAnswer where
  | done
  | value (found : Option Bytes)
  | presence (held : Bool)
  | listing (entries : List (Bytes × Bytes))
  deriving DecidableEq

/-- Do one thing after the other: the answers, and what is there in the end. -/
def StoreAction.run {σ : Type} (perform : σ → StoreAction → StoreAnswer × σ) (state : σ) :
    List StoreAction → List StoreAnswer × σ
  | [] => ([], state)
  | action :: rest =>
    let (answer, state) := perform state action
    let (answers, last) := run perform state rest
    (answer :: answers, last)

namespace LayeredStore

/-- Without a layer there is nothing to commit or to discard. -/
def perform (store : LayeredStore) : StoreAction → StoreAnswer × LayeredStore
  | .begin => (.done, store.begin)
  | .set key value => (.done, store.set key value)
  | .delete key => (.done, store.delete key)
  | .get key => (.value (store.get? key), store)
  | .has key => (.presence (store.contains key), store)
  | .entries => (.listing store.entries, store)
  | .commit => (.done, store.commit)
  | .discard => (.done, store.discard)

/-- The answers of a store with layers, and the store in the end. -/
def run (store : LayeredStore) (actions : List StoreAction) : List StoreAnswer × LayeredStore :=
  StoreAction.run perform store actions

/-- The store as each level sees it, the innermost level first and the base last. -/
def levels (store : LayeredStore) : List LayeredStore :=
  store.layers.tails.map (LayeredStore.mk store.base)

end LayeredStore

/-- A stack of full copies of a store, with the one in front that is worked on. -/
structure Copies where
  top : Store
  below : List Store

namespace Copies

/-- All copies, the one that is worked on first. -/
def all (copies : Copies) : List Store := copies.top :: copies.below

/-- The copy that was there first. -/
def bottom (copies : Copies) : Store := copies.below.getLastD copies.top

/-- With a single copy there is nothing to end. -/
def perform (copies : Copies) : StoreAction → StoreAnswer × Copies
  | .begin => (.done, ⟨copies.top, copies.top :: copies.below⟩)
  | .set key value => (.done, { copies with top := copies.top.insert key value })
  | .delete key => (.done, { copies with top := copies.top.erase key })
  | .get key => (.value (copies.top.get? key), copies)
  | .has key => (.presence (copies.top.contains key), copies)
  | .entries => (.listing copies.top.entries, copies)
  | .commit => (.done, { copies with below := copies.below.tail })
  | .discard =>
    match copies.below with
    | [] => (.done, copies)
    | copy :: rest => (.done, ⟨copy, rest⟩)

/-- The answers of the copies, and the copies in the end. -/
def run (copies : Copies) (actions : List StoreAction) : List StoreAnswer × Copies :=
  StoreAction.run perform copies actions

end Copies

namespace LayeredStore

variable {store : LayeredStore} {base : Store} {layer : Layer} {rest : List Layer}

/-! ### The levels -/

theorem levels_cons (base : Store) (layer : Layer) (rest : List Layer) :
    (LayeredStore.mk base (layer :: rest)).levels =
      .mk base (layer :: rest) :: (LayeredStore.mk base rest).levels := rfl

/-- The innermost level is the store itself. -/
theorem levels_eq_cons (store : LayeredStore) : store.levels = store :: store.levels.tail := by
  obtain ⟨base, layers⟩ := store
  cases layers <;> rfl

theorem length_levels (store : LayeredStore) : store.levels.length = store.depth + 1 := by
  rw [levels, List.length_map, List.length_tails, depth]

theorem levels_begin (store : LayeredStore) :
    store.begin.levels = store.begin :: store.levels := rfl

/-- A write leaves all levels but the innermost alone. -/
theorem tail_levels_write (store : LayeredStore) (entry : Bytes × Option Bytes) :
    (store.write entry).levels.tail = store.levels.tail := by
  obtain ⟨base, layers⟩ := store
  obtain ⟨key, pending⟩ := entry
  cases layers <;> cases pending <;> rfl

theorem tail_levels_foldl_write (entries : List (Bytes × Option Bytes)) (store : LayeredStore) :
    (entries.foldl write store).levels.tail = store.levels.tail := by
  induction entries generalizing store with
  | nil => rfl
  | cons entry rest inductionHypothesis =>
    rw [List.foldl_cons, inductionHypothesis, tail_levels_write]

/-- Committing leaves all levels alone that are below the one to which the writes go. -/
theorem tail_levels_commit (store : LayeredStore) :
    store.commit.levels.tail = store.levels.tail.tail := by
  obtain ⟨base, layers⟩ := store
  cases layers with
  | nil => rfl
  | cons layer rest =>
    rw [commit, tail_levels_foldl_write, levels_cons]
    rfl

/-! ### Layers and copies -/

/-- What the levels show, as full copies. -/
def copies (store : LayeredStore) : Copies := ⟨store.view, store.levels.tail.map view⟩

theorem all_copies (store : LayeredStore) : store.copies.all = store.levels.map view := by
  rw [levels_eq_cons, List.map_cons]
  rfl

/-- The copy at the bottom is the base. -/
theorem bottom_copies (store : LayeredStore) : store.copies.bottom = store.base := by
  obtain ⟨base, layers⟩ := store
  induction layers with
  | nil => rfl
  | cons layer rest inductionHypothesis =>
    rw [Copies.bottom, copies, levels_cons, List.tail_cons, levels_eq_cons, List.map_cons,
      List.getLastD_cons]
    exact inductionHypothesis

/-- Whatever is done, the answer is that of the copies, and the levels still show the copies. -/
theorem perform_copies (store : LayeredStore) (action : StoreAction) :
    store.copies.perform action =
      ((store.perform action).1, (store.perform action).2.copies) := by
  cases action with
  | begin =>
    have below : store.begin.levels.tail.map view = store.view :: store.levels.tail.map view := by
      rw [levels_begin, List.tail_cons, levels_eq_cons, List.map_cons, List.tail_cons]
    rw [perform, Copies.perform, copies, copies, view_begin, below]
  | set key value =>
    rw [perform, Copies.perform, copies, copies, view_set]
    exact congrArg (fun below => (_, Copies.mk _ (below.map view)))
      (tail_levels_write store (key, some value)).symm
  | delete key =>
    rw [perform, Copies.perform, copies, copies, view_delete]
    exact congrArg (fun below => (_, Copies.mk _ (below.map view)))
      (tail_levels_write store (key, none)).symm
  | get key =>
    rw [perform, Copies.perform, copies, get?_eq_view]
  | has key =>
    rw [perform, Copies.perform, copies, contains_eq_view]
  | entries => rfl
  | commit =>
    rw [perform, Copies.perform, copies, copies, view_commit, tail_levels_commit]
    dsimp only
    rw [← List.map_tail]
  | discard =>
    obtain ⟨base, layers⟩ := store
    cases layers with
    | nil => rfl
    | cons layer rest =>
      rw [perform, Copies.perform, copies, levels_cons, List.tail_cons, levels_eq_cons]
      rfl

/-- By induction on what is done, all answers are those of the copies, and in the end the levels
show the copies. -/
theorem run_copies (store : LayeredStore) (actions : List StoreAction) :
    store.copies.run actions = ((store.run actions).1, (store.run actions).2.copies) := by
  induction actions generalizing store with
  | nil => rfl
  | cons action rest inductionHypothesis =>
    have later := inductionHypothesis (store.perform action).2
    rw [Copies.run] at later
    rw [Copies.run, StoreAction.run, perform_copies]
    dsimp only
    rw [later]
    rfl

/-! ### Levels under an open layer -/

theorem run_append (store : LayeredStore) (earlier later : List StoreAction) :
    (store.run (earlier ++ later)).2 = ((store.run earlier).2.run later).2 := by
  induction earlier generalizing store with
  | nil => rfl
  | cons action rest inductionHypothesis => exact inductionHypothesis (store.perform action).2

/-- Nothing that is done changes a level that is below the innermost one afterwards. -/
theorem tail_levels_perform_suffix (store : LayeredStore) (action : StoreAction) :
    (store.perform action).2.levels.tail <:+ store.levels := by
  cases action with
  | begin => exact List.suffix_rfl
  | set key value =>
    exact (tail_levels_write store (key, some value)).symm ▸ List.tail_suffix _
  | delete key => exact (tail_levels_write store (key, none)).symm ▸ List.tail_suffix _
  | get key => exact List.tail_suffix _
  | has key => exact List.tail_suffix _
  | entries => exact List.tail_suffix _
  | commit =>
    exact (tail_levels_commit store).symm ▸ (List.tail_suffix _).trans (List.tail_suffix _)
  | discard =>
    obtain ⟨base, layers⟩ := store
    cases layers with
    | nil => exact List.tail_suffix _
    | cons layer rest => exact (List.tail_suffix _).trans (List.suffix_cons _ _)

/-- By induction on what is done, the levels of a store stay as they are as long as there are layers
over them. -/
theorem levels_suffix_run {inner : LayeredStore} (within : store.levels <:+ inner.levels)
    (actions : List StoreAction)
    (covered : ∀ first, first <+: actions → store.depth < (inner.run first).2.depth) :
    store.levels <:+ (inner.run actions).2.levels := by
  induction actions generalizing inner with
  | nil => exact within
  | cons action rest inductionHypothesis =>
    have lower := tail_levels_perform_suffix inner action
    have fits : store.levels.length ≤ (inner.perform action).2.levels.tail.length := by
      have deeper : store.depth < (inner.perform action).2.depth :=
        covered [action] (List.cons_prefix_cons.mpr ⟨rfl, List.nil_prefix⟩)
      rw [List.length_tail, length_levels, length_levels]
      exact deeper
    have next : store.levels <:+ (inner.perform action).2.levels :=
      (List.suffix_of_suffix_length_le within lower fits).trans (List.tail_suffix _)
    exact inductionHypothesis next fun first isFirst =>
      covered (action :: first) (List.cons_prefix_cons.mpr ⟨rfl, isFirst⟩)

/-! ### What a level tells -/

/-- The three ways to ask a store agree, and what it has is listed in the order of the bytes of the
keys, each key once. -/
structure Consistent (store : LayeredStore) : Prop where
  contains_eq : ∀ key, store.contains key = (store.get? key).isSome
  mem_entries_iff : ∀ key value, (key, value) ∈ store.entries ↔ store.get? key = some value
  ascending : (store.entries.map Prod.fst).Pairwise (· < ·)

theorem consistent (store : LayeredStore) : store.Consistent where
  contains_eq := store.contains_eq_isSome
  mem_entries_iff key value := by rw [get?_eq_view, entries, SortedMap.mem_entries_iff]
  ascending := List.pairwise_map.mpr
    (store.view.ascending.imp fun ordered => KeyOrder.before_bytes_iff.mp ordered)

/-- Whatever is done to a store, it answers as a stack of full copies does, and each level shows the
copy of that level; the base is the copy at the bottom. On every level the answers agree with one
another. As long as a layer is open, all levels below it stay as they were when it was opened. -/
theorem run_eq_run_copies (base : Store) (actions : List StoreAction) :
    ((ofStore base).run actions).1 = ((Copies.mk base []).run actions).1 ∧
      ((ofStore base).run actions).2.levels.map view = ((Copies.mk base []).run actions).2.all ∧
      ((ofStore base).run actions).2.base = ((Copies.mk base []).run actions).2.bottom ∧
      (∀ level ∈ ((ofStore base).run actions).2.levels, level.Consistent) ∧
      ∀ earlier later, actions = earlier ++ .begin :: later →
        (∀ first, first <+: later → ((ofStore base).run earlier).2.depth <
          ((ofStore base).run (earlier ++ .begin :: first)).2.depth) →
        ((ofStore base).run earlier).2.levels <:+ ((ofStore base).run actions).2.levels := by
  have copied : (Copies.mk base []).run actions =
      (((ofStore base).run actions).1, ((ofStore base).run actions).2.copies) :=
    run_copies (ofStore base) actions
  rw [copied]
  refine ⟨rfl, (all_copies _).symm, (bottom_copies _).symm, fun level _ => level.consistent, ?_⟩
  rintro earlier later rfl isOpen
  have opened : ((ofStore base).run earlier).2.levels <:+
      ((ofStore base).run earlier).2.begin.levels := by
    rw [levels_begin]
    exact List.suffix_cons _ _
  rw [run_append]
  refine levels_suffix_run opened later fun first isFirst => ?_
  have deeper := isOpen first isFirst
  rw [run_append] at deeper
  exact deeper

/-- A store with one key. -/
def oneKey : Store := SortedMap.empty.insert [1] [1]

/-- Remove the key, and write it again in a layer of its own. -/
def rewriteKey : List StoreAction :=
  [.delete [1], .begin, .set [1] [9], .commit, .get [1], .entries]

theorem run_eq_run_copies_rewriteKey :
    (∀ first, first <+: rewriteKey → ((ofStore oneKey).run [.get [1]]).2.depth <
        ((ofStore oneKey).run ([.get [1]] ++ .begin :: first)).2.depth) ∧
      ((ofStore oneKey).run [.get [1]]).2.levels <:+
        ((ofStore oneKey).run ([.get [1]] ++ .begin :: rewriteKey)).2.levels ∧
      ((ofStore oneKey).run ([.get [1]] ++ .begin :: rewriteKey)).1 =
        [.value (some [1]), .done, .done, .done, .done, .done, .value (some [9]),
          .listing [([1], [9])]] := by
  have isOpen : ∀ first, first <+: rewriteKey → ((ofStore oneKey).run [.get [1]]).2.depth <
      ((ofStore oneKey).run ([.get [1]] ++ .begin :: first)).2.depth := by
    have covered : ∀ first ∈ rewriteKey.inits, ((ofStore oneKey).run [.get [1]]).2.depth <
        ((ofStore oneKey).run ([.get [1]] ++ .begin :: first)).2.depth := by decide
    exact fun first isFirst => covered first ((List.mem_inits _ _).mpr isFirst)
  obtain ⟨answers, _, _, _, lower⟩ :=
    run_eq_run_copies oneKey ([.get [1]] ++ .begin :: rewriteKey)
  exact ⟨isOpen, lower _ _ rfl isOpen, answers.trans (by decide)⟩

end LayeredStore

end TokenLedger
