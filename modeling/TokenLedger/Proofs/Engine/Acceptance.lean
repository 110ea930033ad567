/-
This file proves which states a new engine accepts. A state is checked three times, as a list, when
it is tried out in empty stores, and over the stores of the engine, and the three agree: a state is
accepted if the list passes its checks and the supply of every token names the token's own
denomination. Whatever else an engine is asked to load, it refuses with a fatal fault. What it
exports after it has accepted a state are the records of that state in the order of their names,
without the accounts that hold nothing, whatever the format and the order in which they were given.
-/

import Mathlib
import TokenLedger.Proofs.Engine.Canonical
import TokenLedger.Proofs.Engine.Refusals

namespace TokenLedger

/-! ### Every refusal is fatal -/

/-- Whether a result, if it is a fault, is one that is fatal. -/
def Severe {α : Type} (result : Except Fault α) : Prop :=
  FailsOnlyWith (fun fault => fault.isFatal = true) result

namespace RecordFormat

theorem severe_document {α : Type} (read : Json.Tree → Option α) (bytes : Bytes) :
    Severe (document read bytes) := by
  rw [document]
  split
  next => exact .ok _
  next => exact .error rfl

theorem severe_decodeToken (format : RecordFormat) (bytes : Bytes) :
    Severe (format.decodeToken bytes) := by
  cases format with
  | json => exact severe_document _ _
  | proto => exact .mapError fun _ => rfl

theorem severe_decodeAccount (format : RecordFormat) (bytes : Bytes) :
    Severe (format.decodeAccount bytes) := by
  cases format with
  | json => exact severe_document _ _
  | proto => exact .mapError fun _ => rfl

end RecordFormat

theorem Registry.severe_all (format : RecordFormat) (store : LayeredStore) :
    Severe (Registry.all format store) := by
  refine .mapM (fun entry => ?_) _
  rw [Registry.readEntry]
  split
  next => exact .error rfl
  next => exact .bind (format.severe_decodeToken _) fun _ => .ok _

theorem Holdings.severe_entries (format : RecordFormat) (store : LayeredStore) :
    Severe (Holdings.entries format store) := by
  refine .mapM (fun entry => ?_) _
  rw [Holdings.readEntry]
  exact .bind (format.severe_decodeAccount _) fun _ => .ok _

theorem severe_checkRecords (format : RecordFormat) (tokens accounts : LayeredStore) :
    Severe (checkRecords format tokens accounts) := by
  have breaches (result : Except Breach Unit) : Severe (result.mapError Fault.breach) :=
    .mapError fun _ => rfl
  refine .bind (.bind (Registry.severe_all format tokens) fun entries => ?_) fun _ =>
    .bind (Holdings.severe_entries format accounts) fun entries => ?_
  · exact .forIn _ (fun entry : String × Token => breaches (entry.2.check entry.1)) entries
  · exact .forIn _ (fun entry : Bytes × Account => breaches (entry.2.check entry.1)) entries

theorem GenesisState.severe_load (format : RecordFormat) (state : GenesisState)
    (store : LedgerStore) : Severe (state.load format store).1 := by
  have checks : Severe state.validate := .mapError fun _ => rfl
  rw [load]
  split
  next fault refused => exact .error (checks fault refused)
  next =>
    split
    next fault failed =>
      refine .error ?_
      rw [loadFault]
      split
      next fatal => exact fatal
      next => rfl
    next => exact .ok ()

/-- Whatever the stores of an engine hold, it refuses a state with a fatal fault. -/
theorem Engine.severe_initGenesis (engine : Engine) (state : GenesisState) :
    Severe (engine.initGenesis state).1 := by
  have loads := state.severe_load engine.setup.format engine.store
  rw [initGenesis]
  split
  next => exact .error rfl
  next =>
    split
    next fault store failed =>
      rw [failed] at loads
      exact loads
    next store loaded =>
      dsimp only
      split
      next fault failed => exact .error (severe_checkRecords _ _ _ fault failed)
      next => exact .ok ()

/-! ### The checks agree -/

namespace GenesisState

variable {state : GenesisState}

/-- A state that has been tried out in empty stores can be loaded there. -/
theorem namesSupply_of_tryOut (passed : state.tryOut = .ok ()) :
    state.validate = .ok () ∧ (Book.empty.load state).NamesSupply := by
  obtain ⟨_, checked, passed⟩ := bind_eq_ok passed
  have valid := mapError_eq_ok_iff.mp checked
  rw [load_empty valid] at passed
  obtain ⟨_, _, passed⟩ := bind_eq_ok passed
  exact ⟨valid, (checkRecords_eq_ok_iff (Book.complete_empty.load valid)
    (LayeredStore.view_ofStore _) (LayeredStore.view_ofStore _)).mp (mapError_eq_ok_iff.mp passed)⟩

theorem tryOut_eq_ok_iff :
    state.tryOut = .ok () ↔ state.validate = .ok () ∧
      ∀ token ∈ state.tokens, token.totalSupply.contains token.symbol = true := by
  constructor
  · intro passed
    obtain ⟨valid, names⟩ := namesSupply_of_tryOut passed
    exact ⟨valid, (Book.namesSupply_load_empty_iff (distinct_of_validate valid).symbols).mp names⟩
  · rintro ⟨valid, supplied⟩
    exact Book.tryOut_of_namesSupply valid
      ((Book.namesSupply_load_empty_iff (distinct_of_validate valid).symbols).mpr supplied)

end GenesisState

theorem Engine.initGenesis_new_eq_ok_iff {setup : Setup} {generator : SymbolGenerator}
    {state : GenesisState} :
    ((new setup generator).initGenesis state).1 = .ok () ↔ state.tryOut = .ok () := by
  constructor
  · intro accepted
    obtain ⟨valid, names⟩ := of_initGenesis_new accepted
    exact Book.tryOut_of_namesSupply valid names
  · intro passed
    obtain ⟨valid, names⟩ := GenesisState.namesSupply_of_tryOut passed
    rw [initGenesis_new valid names]

/-! ### What is exported -/

/-- The records without the accounts that hold nothing. -/
def GenesisState.withoutEmptyAccounts (state : GenesisState) : GenesisState :=
  ⟨state.tokens, state.accounts.filter fun account => !account.isEmpty⟩

namespace Book

variable {state : GenesisState}

/-- By induction on the accounts, one that holds nothing leaves no record, since it drops none. -/
theorem foldl_withAccount_filter {accounts : List Account}
    (distinct : (accounts.map Account.address).Nodup) {book : Book}
    (fresh : ∀ account ∈ accounts, book.accounts.get? account.address = none) :
    (accounts.filter fun account => !account.isEmpty).foldl withAccount book =
      accounts.foldl withAccount book := by
  induction accounts generalizing book with
  | nil => rfl
  | cons account rest inductionHypothesis =>
    obtain ⟨unrepeated, distinct⟩ := List.nodup_cons.mp distinct
    obtain ⟨unbound, others⟩ := List.forall_mem_cons.mp fresh
    cases nothing : account.isEmpty with
    | true =>
      have same : book.withAccount account = book := by
        rw [withAccount, if_pos nothing, SortedMap.erase_of_get?_none unbound]
      rw [List.filter_cons_of_neg (by simp [nothing]), List.foldl_cons, same]
      exact inductionHypothesis distinct others
    | false =>
      rw [List.filter_cons_of_pos (by simp [nothing]), List.foldl_cons, List.foldl_cons]
      refine inductionHypothesis distinct fun other member => ?_
      have different : other.address ≠ account.address := fun same =>
        unrepeated (same ▸ List.mem_map_of_mem member)
      rw [get?_withAccount_other _ different]
      exact others other member

theorem load_withoutEmptyAccounts (distinct : state.Distinct) :
    empty.load state.withoutEmptyAccounts = empty.load state := by
  rw [load, load]
  refine foldl_withAccount_filter distinct.addresses fun account _ => ?_
  rw [accounts_foldl_withToken]
  rfl

/-- A state that is loaded into no records is listed in order, without the accounts that hold
nothing. -/
theorem records_load_empty (valid : state.validate = .ok ()) :
    (empty.load state).records = state.withoutEmptyAccounts.sorted := by
  have distinct := GenesisState.distinct_of_validate valid
  have distinctRest : state.withoutEmptyAccounts.Distinct :=
    ⟨distinct.symbols, distinct.addresses.sublist (List.filter_sublist.map _)⟩
  have notEmpty : ∀ account ∈ state.withoutEmptyAccounts.accounts, account.isEmpty = false := by
    intro account member
    simpa using (List.mem_filter.mp member).2
  have accounts := accounts_load_empty notEmpty
  rw [load_withoutEmptyAccounts distinct] at accounts
  have same : state.withoutEmptyAccounts.SameRecords (empty.load state).records := by
    refine ⟨?_, ?_⟩
    · rw [records, tokens_load_empty]
      exact (SortedMap.values_ofList_perm Token.symbol distinct.symbols).symm
    · rw [records, accounts]
      exact (SortedMap.values_ofList_perm Account.address distinctRest.addresses).symm
  rw [(distinctRest.sorted_eq_iff _).mpr same,
    (complete_empty.load valid).sorted_records]

end Book

namespace Engine

variable {setup : Setup} {generator : SymbolGenerator} {state : GenesisState}

theorem exportState_initGenesis_new
    (accepted : ((new setup generator).initGenesis state).1 = .ok ()) :
    ((new setup generator).initGenesis state).2.exportState =
      .ok state.withoutEmptyAccounts.sorted := by
  obtain ⟨valid, sound⟩ := (sound_new setup generator).initGenesis_of_accepted accepted
  rw [sound.exportState_eq, Book.records_load_empty valid]

/-- A new engine accepts a state if it can be tried out, that is, if its list passes the checks and
every supply names the denomination of its token. Any refusal is fatal. After a state has been
accepted, its records are exported in the order of their names, without the accounts that hold
nothing, and so they are by every new engine that is given the same records in whatever order. -/
theorem genesis_accepted_iff (state : GenesisState) (setup : Setup) (generator : SymbolGenerator) :
    (((new setup generator).initGenesis state).1 = .ok () ↔ state.tryOut = .ok ()) ∧
    (state.tryOut = .ok () ↔ state.validate = .ok () ∧
      ∀ token ∈ state.tokens, token.totalSupply.contains token.symbol = true) ∧
    (∀ engine : Engine, ∀ fault, (engine.initGenesis state).1 = .error fault →
      fault.isFatal = true) ∧
    (((new setup generator).initGenesis state).1 = .ok () →
      ∃ exported, ((new setup generator).initGenesis state).2.exportState = .ok exported ∧
        state.withoutEmptyAccounts.SortedAs exported ∧
        ∀ other, state.SameRecords other → ∀ otherSetup otherGenerator,
          ((new otherSetup otherGenerator).initGenesis other).1 = .ok () ∧
            ((new otherSetup otherGenerator).initGenesis other).2.exportState = .ok exported) := by
  refine ⟨initGenesis_new_eq_ok_iff, GenesisState.tryOut_eq_ok_iff,
    fun engine => engine.severe_initGenesis state, fun accepted => ?_⟩
  refine ⟨_, exportState_initGenesis_new accepted, GenesisState.sortedAs_iff.mpr rfl, ?_⟩
  intro other same otherSetup otherGenerator
  have acceptedThere : ((new otherSetup otherGenerator).initGenesis state).1 = .ok () :=
    initGenesis_new_eq_ok_iff.mpr (initGenesis_new_eq_ok_iff.mp accepted)
  rw [same.initGenesis_eq acceptedThere]
  exact ⟨acceptedThere, exportState_initGenesis_new acceptedThere⟩

theorem genesis_accepted_iff_outOfOrder :
    ((new ⟨.proto, {}⟩ (.digest 0 3)).initGenesis .outOfOrder).1 = .ok () ∧
      GenesisState.outOfOrder.SameRecords GenesisState.outOfOrder.reversed ∧
      ∃ exported,
        ((new ⟨.proto, {}⟩ (.digest 0 3)).initGenesis .outOfOrder).2.exportState = .ok exported ∧
        GenesisState.outOfOrder.withoutEmptyAccounts.SortedAs exported ∧
        exported.accounts.length = 2 ∧
        ((new ⟨.json, {}⟩ (.digest 0 3)).initGenesis
          GenesisState.outOfOrder.reversed).2.exportState = .ok exported ∧
        ∃ fault, ((new ⟨.proto, {}⟩ (.digest 0 3)).initGenesis .foreignSupply).1 = .error fault ∧
          fault.isFatal = true := by
  have accepted : ((new ⟨.proto, {}⟩ (.digest 0 3)).initGenesis .outOfOrder).1 = .ok () := by
    decide +kernel
  have same : GenesisState.outOfOrder.SameRecords GenesisState.outOfOrder.reversed :=
    ⟨(List.reverse_perm _).symm, (List.reverse_perm _).symm⟩
  have refused : ((new ⟨.proto, {}⟩ (.digest 0 3)).initGenesis .foreignSupply).1 =
      .error (.breach (.noSupply "GLD-1A2")) := by decide +kernel
  obtain ⟨_, _, _, exports⟩ :=
    genesis_accepted_iff .outOfOrder ⟨.proto, {}⟩ (.digest 0 3)
  obtain ⟨exported, found, listed, everywhere⟩ := exports accepted
  obtain ⟨_, _, fatal, _⟩ := genesis_accepted_iff .foreignSupply ⟨.proto, {}⟩ (.digest 0 3)
  exact ⟨accepted, same, exported, found, listed, listed.accounts.perm.length_eq,
    (everywhere _ same _ _).2, _, refused, fatal _ _ refused⟩

end Engine

end TokenLedger
