/-
This file states what holds of the stored records of every engine that can be reached once a genesis
state has been accepted. The rules are those of the book that the stores keep, said of the bytes. It
follows that the checks which the engine makes of its own records never fail: the only fatal faults
are those of an envelope that comes out of sequence or in another version.
-/

import Mathlib
import TokenLedger.Proofs.Engine.Reachable

namespace TokenLedger

/-- Every stored record can be read and stands under its own name, and no name is missing. -/
structure LedgerStore.Holds (format : RecordFormat) (store : LedgerStore) : Prop where
  /-- A token stands under its symbol, and its supply names the symbol. -/
  token : ∀ key bytes, (key, bytes) ∈ store.tokens.entries →
    ∃ token, format.decodeToken bytes = .ok token ∧ key = utf8 token.symbol ∧
      token.symbol ≠ "" ∧ token.owner ≠ "" ∧ token.name ≠ "" ∧ token.originalSymbol ≠ "" ∧
      token.totalSupply.contains token.symbol = true
  /-- An account stands under its address and holds something, but no zero amounts. -/
  account : ∀ key bytes, (key, bytes) ∈ store.accounts.entries →
    ∃ account, format.decodeAccount bytes = .ok account ∧ key = utf8 account.address ∧
      account.address ≠ "" ∧ account.hasZero = false ∧ account.isEmpty = false

namespace Book

variable {book : Book}

theorem Complete.holds_stored (complete : book.Complete) (names : book.NamesSupply)
    (format : RecordFormat) : (book.stored format).Holds format := by
  constructor
  · intro key bytes member
    obtain ⟨⟨symbol, token⟩, entry, same⟩ := List.mem_map.mp member
    obtain ⟨rfl, rfl⟩ := Prod.mk.inj same
    have found := SortedMap.mem_entries_iff.mp entry
    have recorded := complete.token symbol token found
    have supply := names symbol token found
    obtain rfl := recorded.symbol_eq
    exact ⟨token, format.decodeToken_encodeToken token, rfl, recorded.symbol_ne, recorded.owner_ne,
      recorded.name_ne, recorded.originalSymbol_ne, supply⟩
  · intro key bytes member
    obtain ⟨⟨address, account⟩, entry, same⟩ := List.mem_map.mp member
    obtain ⟨rfl, rfl⟩ := Prod.mk.inj same
    have recorded := complete.account address account (SortedMap.mem_entries_iff.mp entry)
    obtain rfl := recorded.address_eq
    exact ⟨account, format.decodeAccount_encodeAccount account, rfl, recorded.address_ne,
      recorded.noZero, recorded.notEmpty⟩

/-- The listing of the stores of a book are its records. -/
theorem ofStore_stored_eq_records (book : Book) (format : RecordFormat) :
    GenesisState.ofStore format (book.stored format) = .ok book.records := by
  have tokens : (LayeredStore.ofStore (book.stored format).tokens).view = book.tokenStore format :=
    rfl
  have accounts : (LayeredStore.ofStore (book.stored format).accounts).view =
      book.accountStore format := rfl
  rw [GenesisState.ofStore, Registry.all_of_view tokens, Holdings.all_of_view accounts]
  rfl

theorem Complete.checkRecords_stored (complete : book.Complete) (names : book.NamesSupply)
    (format : RecordFormat) :
    checkRecords format (.ofStore (book.stored format).tokens)
      (.ofStore (book.stored format).accounts) = .ok () :=
  (checkRecords_eq_ok_iff complete (LayeredStore.view_ofStore _)
    (LayeredStore.view_ofStore _)).mpr names

/-- Records that pass the checks of a list and whose supplies name their denominations can be loaded
into empty stores and pass the check there. -/
theorem tryOut_of_namesSupply {state : GenesisState} (valid : state.validate = .ok ())
    (names : (Book.empty.load state).NamesSupply) : state.tryOut = .ok () := by
  have checked := (complete_empty.load valid).checkRecords_stored names .json
  rw [GenesisState.tryOut, valid, GenesisState.load_empty valid]
  simp only [LedgerStore.plain, checked]
  rfl

/-- The records of a book can be loaded into empty stores and pass the check there. -/
theorem Complete.tryOut_records (complete : book.Complete) (names : book.NamesSupply) :
    book.records.tryOut = .ok () :=
  tryOut_of_namesSupply (complete.validate_records names) (complete.load_records.symm ▸ names)

end Book

namespace Engine

variable {engine : Engine}

theorem Sound.exportState_eq {book : Book} (sound : engine.Sound book) :
    engine.exportState = .ok book.records := by
  rw [exportState, sound.kept]
  exact book.ofStore_stored_eq_records engine.setup.format

/-- The envelope of a fatal delivery is not accepted. -/
theorem Sound.checkEnvelope_of_fatal {book : Book} (sound : engine.Sound book)
    {envelope : Envelope} {fault : Fault} (outcome : (engine.deliver envelope).1 = .error fault)
    (fatal : fault.isFatal = true) : engine.checkEnvelope envelope = .error fault := by
  cases accepted : engine.checkEnvelope envelope with
  | error refusal =>
    rw [deliver_eq, accepted] at outcome
    have same : (.error refusal : Outcome) = .error fault := outcome
    cases same
    rfl
  | ok _ =>
    have names := sound.named (initialized_of_checkEnvelope accepted)
    rw [sound.kept.deliver sound.complete names accepted] at outcome
    cases posted : book.post engine.setup.params engine.generator.candidate
        engine.generator.nonce envelope.request with
    | error refusal =>
      rw [posted] at outcome
      obtain rfl : refusal = fault := Except.error.inj outcome
      have mild := Book.mild_post book envelope.request refusal posted
      rw [fatal] at mild
      cases mild
    | ok result =>
      rw [posted] at outcome
      cases outcome

/-- After a genesis state an envelope is refused for its version or its place only. -/
theorem checkEnvelope_eq_error {envelope : Envelope} {fault : Fault}
    (initialized : engine.initialized = true)
    (refused : engine.checkEnvelope envelope = .error fault) :
    (∃ expected actual, fault = .wrongSchema expected actual) ∨
      ∃ expected actual, fault = .outOfSequence expected actual := by
  unfold checkEnvelope at refused
  dsimp only at refused
  split at refused
  next =>
    cases refused
    exact .inl ⟨_, _, rfl⟩
  next =>
    split at refused
    next =>
      cases refused
      exact .inr ⟨_, _, rfl⟩
    next =>
      rw [initialized] at refused
      cases refused

/-- In every engine that has accepted a genesis state the stored records hold, the state that it
exports passes every check, and a delivery is fatal only for the envelope's version or place in the
sequence. -/
theorem records_hold (reachable : engine.Reachable) (initialized : engine.initialized = true) :
    engine.store.Holds engine.setup.format ∧
    (∃ state, engine.exportState = .ok state ∧ state.validate = .ok () ∧ state.tryOut = .ok ()) ∧
    checkRecords engine.setup.format (.ofStore engine.store.tokens)
      (.ofStore engine.store.accounts) = .ok () ∧
    ∀ envelope fault, (engine.deliver envelope).1 = .error fault → fault.isFatal = true →
      (∃ expected actual, fault = .wrongSchema expected actual) ∨
        ∃ expected actual, fault = .outOfSequence expected actual := by
  obtain ⟨book, sound⟩ := reachable.sound
  have names := sound.named initialized
  refine ⟨?_, ⟨book.records, sound.exportState_eq, sound.complete.validate_records names,
    sound.complete.tryOut_records names⟩, ?_, fun envelope fault outcome fatal => ?_⟩
  · rw [sound.kept]
    exact sound.complete.holds_stored names engine.setup.format
  · rw [sound.kept]
    exact sound.complete.checkRecords_stored names engine.setup.format
  · exact checkEnvelope_eq_error initialized (sound.checkEnvelope_of_fatal outcome fatal)

theorem records_hold_oneToken :
    oneToken.Reachable ∧ oneToken.initialized = true ∧
      oneToken.store.Holds oneToken.setup.format :=
  have initialized : oneToken.initialized = true := by decide +kernel
  ⟨oneToken_reachable, initialized, (records_hold oneToken_reachable initialized).1⟩

end Engine

end TokenLedger
