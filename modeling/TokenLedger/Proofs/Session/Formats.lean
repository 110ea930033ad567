/-
This file proves that the format in which records are kept decides nothing that can be seen. Two
ledgers with the same settings but for the format accept the same genesis states and refuse the
others for the same fault, and once they have accepted one they are alike: they keep one book, each
in its own bytes. Every delivery then comes to the same in both, so that building a ledger again
ends in the same fault or in the same outcomes, state, digest, place and number of proposals.
-/

import Mathlib
import TokenLedger.Proofs.Session.Rebuilding

namespace TokenLedger

/-! ### Accepting a genesis state -/

/-- The check over the stores reads the records, so it comes to the same in every format. -/
theorem Book.checkRecords_stored_eq (book : Book) (first second : RecordFormat) :
    checkRecords first (.ofStore (book.stored first).tokens)
        (.ofStore (book.stored first).accounts) =
      checkRecords second (.ofStore (book.stored second).tokens)
        (.ofStore (book.stored second).accounts) := by
  have tokens (format : RecordFormat) :
      Registry.all format (.ofStore (book.stored format).tokens) = .ok book.tokens.entries :=
    Registry.all_of_view (LayeredStore.view_ofStore _)
  have accounts (format : RecordFormat) :
      Holdings.entries format (.ofStore (book.stored format).accounts) =
        .ok (book.accounts.entries.map fun entry => (utf8 entry.1, entry.2)) :=
    Holdings.entries_of_view (LayeredStore.view_ofStore _)
  simp only [checkRecords, checkTokens, checkAccounts, tokens, accounts]

namespace Engine

variable {engine other : Engine} {book : Book}

/-- What a new engine makes of a genesis state: the checks of the list come first, those over the
stores next. -/
theorem initGenesis_new_outcome (setup : Setup) (generator : SymbolGenerator)
    (genesis : GenesisState) :
    ((new setup generator).initGenesis genesis).1 =
      (do
        genesis.validate
        checkRecords setup.format (.ofStore ((Book.empty.load genesis).stored setup.format).tokens)
          (.ofStore ((Book.empty.load genesis).stored setup.format).accounts)) := by
  have fresh : ¬ (new setup generator).initialized = true := Bool.false_ne_true
  rw [initGenesis, if_neg fresh]
  cases valid : genesis.validate with
  | error fault =>
    rw [GenesisState.load_of_not_valid valid]
    rfl
  | ok _ =>
    have loaded : genesis.load (new setup generator).setup.format (new setup generator).store =
        (.ok (), (Book.empty.load genesis).stored setup.format) :=
      GenesisState.load_empty valid setup.format
    rw [loaded]
    simp only [LedgerStore.plain]
    split
    next fault refused => exact refused.symm
    next passed => exact passed.symm

/-- New engines that differ in the format only accept the same genesis states, and refuse the others
for the same fault. -/
theorem initGenesis_new_outcome_eq (params : Params) (generator : SymbolGenerator)
    (genesis : GenesisState) (first second : RecordFormat) :
    ((new ⟨second, params⟩ generator).initGenesis genesis).1 =
      ((new ⟨first, params⟩ generator).initGenesis genesis).1 := by
  rw [initGenesis_new_outcome, initGenesis_new_outcome,
    Book.checkRecords_stored_eq _ second first]

/-- Once they have accepted one they are alike. -/
theorem alike_initGenesis_new {params : Params} {generator : SymbolGenerator}
    {genesis : GenesisState} {first : RecordFormat}
    (accepted : ((new ⟨first, params⟩ generator).initGenesis genesis).1 = .ok ())
    (second : RecordFormat) :
    Alike (Book.empty.load genesis) ((new ⟨first, params⟩ generator).initGenesis genesis).2
      ((new ⟨second, params⟩ generator).initGenesis genesis).2 := by
  obtain ⟨valid, names⟩ := of_initGenesis_new accepted
  obtain ⟨_, sound⟩ := (sound_new ⟨first, params⟩ generator).initGenesis_of_accepted accepted
  rw [initGenesis_new valid names] at sound ⊢
  rw [initGenesis_new valid names]
  exact ⟨sound, rfl, rfl, rfl, rfl, rfl⟩

/-! ### Deliveries in a row -/

/-- By induction on the envelopes, deliveries in a row come to the same in alike engines, and leave
them alike. -/
theorem Alike.deliverAll (alike : Alike book engine other) (envelopes : List Envelope) :
    (other.deliverAll envelopes).1 = (engine.deliverAll envelopes).1 ∧
      ∃ after, Alike after (engine.deliverAll envelopes).2 (other.deliverAll envelopes).2 := by
  induction envelopes generalizing engine other book with
  | nil => exact ⟨rfl, book, alike⟩
  | cons envelope rest inductionHypothesis =>
    obtain ⟨same, next, later⟩ := alike.deliver envelope
    cases mild : Outcome.isFatal (engine.deliver envelope).1 with
    | true =>
      obtain ⟨fault, outcome, ended⟩ := deliverAll_cons_of_fatal mild rest
      obtain ⟨again, outcomeOther, endedOther⟩ := deliverAll_cons_of_fatal (same ▸ mild) rest
      rw [outcome, outcomeOther] at same
      rw [ended, endedOther]
      exact ⟨congrArg Except.error (Except.error.inj same), book, alike⟩
    | false =>
      obtain ⟨results, after, last⟩ := inductionHypothesis later
      rw [deliverAll_cons mild, deliverAll_cons (same ▸ mild), same, results]
      exact ⟨rfl, after, last⟩

end Engine

/-! ### Building a ledger again -/

namespace Settings

/-- Building, part by part: the genesis state, the envelopes, the digest. -/
theorem rebuild_eq (settings : Settings) (genesis : GenesisState) (envelopes : List Envelope) :
    settings.rebuild genesis envelopes =
      (do
        (settings.newEngine.initGenesis genesis).1
        let outcomes ← ((settings.newEngine.initGenesis genesis).2.deliverAll envelopes).1
        let hash ← ((settings.newEngine.initGenesis genesis).2.deliverAll envelopes).2.stateHash
        return ⟨((settings.newEngine.initGenesis genesis).2.deliverAll envelopes).2, outcomes,
          hash⟩) := by
  rw [rebuild]
  cases settings.newEngine.initGenesis genesis with
  | mk accepted start =>
    cases accepted with
    | error fault => rfl
    | ok _ =>
      dsimp only
      cases start.deliverAll envelopes with
      | mk result after => cases result <;> rfl

/-- Settings that differ in the format only build a ledger from the same genesis states and
envelopes. Where one fails, the other fails with the same fault; where one succeeds, the outcomes,
the state, its digest, the place in the sequence and the number of proposals are the same. -/
theorem rebuild_in_any_format (settings : Settings) (first second : RecordFormat)
    (genesis : GenesisState) (envelopes : List Envelope) :
    (∃ fault,
      { settings with format := first }.rebuild genesis envelopes = .error fault ∧
        { settings with format := second }.rebuild genesis envelopes = .error fault) ∨
    ∃ rebuilt other state,
      { settings with format := first }.rebuild genesis envelopes = .ok rebuilt ∧
      { settings with format := second }.rebuild genesis envelopes = .ok other ∧
      other.outcomes = rebuilt.outcomes ∧
      rebuilt.engine.exportState = .ok state ∧ other.engine.exportState = .ok state ∧
      rebuilt.hash = state.hash ∧ other.hash = state.hash ∧
      other.engine.lastSequence = rebuilt.engine.lastSequence ∧
      other.engine.generator.nonce = rebuilt.engine.generator.nonce := by
  have sameAnswer : ({ settings with format := second }.newEngine.initGenesis genesis).1 =
      ({ settings with format := first }.newEngine.initGenesis genesis).1 :=
    Engine.initGenesis_new_outcome_eq settings.params _ genesis first second
  rw [rebuild_eq, rebuild_eq, sameAnswer]
  cases accepted : ({ settings with format := first }.newEngine.initGenesis genesis).1 with
  | error fault => exact .inl ⟨fault, rfl, rfl⟩
  | ok _ =>
    have alike : Engine.Alike _
        ({ settings with format := first }.newEngine.initGenesis genesis).2
        ({ settings with format := second }.newEngine.initGenesis genesis).2 :=
      Engine.alike_initGenesis_new accepted second
    obtain ⟨sameResult, book, last⟩ := alike.deliverAll envelopes
    rw [sameResult, last.sound.stateHash_eq, last.soundOther.stateHash_eq]
    cases delivered :
        (({ settings with format := first }.newEngine.initGenesis genesis).2.deliverAll
          envelopes).1 with
    | error fault => exact .inl ⟨fault, rfl, rfl⟩
    | ok outcomes =>
      exact .inr ⟨_, _, book.records, rfl, rfl, rfl, last.sound.exportState_eq,
        last.soundOther.exportState_eq, rfl, rfl, last.lastSequence,
        congrArg SymbolGenerator.nonce last.generator⟩

end Settings

end TokenLedger
