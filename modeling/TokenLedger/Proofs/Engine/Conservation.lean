/-
This file proves that no run of an engine creates or destroys units of a symbol without its supply
saying so. The gap of a symbol, which is what all stored accounts hold of it less its registered
supply, is the same before and after every delivery, whether that ends in a receipt, in a refusal or
in a fatal fault. By induction on the envelopes it is the same after every run, so that an engine
which starts out balanced stays balanced.
-/

import Mathlib
import TokenLedger.Proofs.Engine.Invariants
import TokenLedger.Proofs.Ledger.Conservation

namespace TokenLedger.Engine

variable {engine : Engine} {book : Book}

/-- How much more the stored accounts hold of a symbol than its registered supply. -/
def gap (engine : Engine) (symbol : String) : Except Fault Int :=
  engine.exportState.map fun state => state.gap symbol

/-- Deliver envelopes in order, whatever becomes of each. -/
def run (engine : Engine) (envelopes : List Envelope) : Engine :=
  envelopes.foldl (fun engine envelope => (engine.deliver envelope).2) engine

/-- The engines that have accepted a genesis state while their stores were empty. A genesis state
that was refused before may have left records that were not in the accepted one. -/
inductive Loaded (genesis : GenesisState) : Engine → Prop
  | initGenesis {engine : Engine} (reachable : engine.Reachable) (unused : engine.store = .empty)
      (accepted : (engine.initGenesis genesis).1 = .ok ()) :
      Loaded genesis (engine.initGenesis genesis).2
  | restore {engine : Engine} {sequence nonce : UInt64} (reachable : engine.Reachable)
      (unused : engine.store = .empty)
      (accepted : (engine.restore genesis sequence nonce).1 = .ok ()) :
      Loaded genesis (engine.restore genesis sequence nonce).2

/-! ### One delivery -/

theorem Sound.gap_eq (sound : engine.Sound book) (symbol : String) :
    engine.gap symbol = .ok (book.gap symbol) := by
  rw [gap, sound.exportState_eq, ← sound.complete.gap_records symbol]
  rfl

/-- A delivery leaves a book with the gaps of the one before. -/
theorem Sound.deliver_gap (sound : engine.Sound book) (envelope : Envelope) :
    ∃ after, (engine.deliver envelope).2.Sound after ∧
      ∀ symbol, after.gap symbol = book.gap symbol := by
  obtain ⟨after, later, same | ⟨receipt, next, posted⟩⟩ := sound.deliver envelope
  · exact ⟨after, later, fun symbol => by rw [same]⟩
  · exact ⟨after, later, posted.gap_eq sound.complete⟩

/-! ### Runs -/

/-- By induction on the envelopes, a run leaves a book with the gaps of the first. -/
theorem Sound.run_gap (sound : engine.Sound book) (envelopes : List Envelope) :
    ∃ after, (engine.run envelopes).Sound after ∧
      ∀ symbol, after.gap symbol = book.gap symbol := by
  induction envelopes generalizing engine book with
  | nil => exact ⟨book, sound, fun _ => rfl⟩
  | cons envelope rest inductionHypothesis =>
    obtain ⟨next, delivered, step⟩ := sound.deliver_gap envelope
    obtain ⟨after, later, run⟩ := inductionHypothesis delivered
    exact ⟨after, later, fun symbol => (run symbol).trans (step symbol)⟩

/-- A run that starts without gaps ends without gaps. -/
theorem Sound.run_balanced (sound : engine.Sound book) (closed : ∀ symbol, book.gap symbol = 0)
    (envelopes : List Envelope) :
    ∃ after, (engine.run envelopes).exportState = .ok after ∧ after.Balanced := by
  obtain ⟨last, later, same⟩ := sound.run_gap envelopes
  refine ⟨last.records, later.exportState_eq, GenesisState.balanced_iff.mpr fun symbol => ?_⟩
  rw [later.complete.gap_records, same, closed]

/-! ### Engines that start out balanced -/

/-- Empty stores keep the empty book. -/
theorem Sound.eq_empty (sound : engine.Sound book) (unused : engine.store = .empty) :
    book = .empty := by
  have kept : book.stored engine.setup.format = Book.empty.stored engine.setup.format :=
    sound.kept.symm.trans unused
  have read := sound.complete.ofStore_stored engine.setup.format
  rw [kept, Book.complete_empty.ofStore_stored] at read
  exact (Except.ok.inj read).symm

/-- What has been loaded into empty stores is the book of the genesis state. -/
theorem Loaded.sound {genesis : GenesisState} (loaded : engine.Loaded genesis) :
    genesis.validate = .ok () ∧ engine.Sound (Book.empty.load genesis) := by
  cases loaded with
  | initGenesis reachable unused accepted =>
    obtain ⟨book, sound⟩ := reachable.sound
    obtain rfl := sound.eq_empty unused
    exact sound.initGenesis_of_accepted accepted
  | restore reachable unused accepted =>
    obtain ⟨book, sound⟩ := reachable.sound
    obtain rfl := sound.eq_empty unused
    rw [restore_outcome] at accepted
    obtain ⟨valid, later⟩ := sound.initGenesis_of_accepted accepted
    exact ⟨valid, (sound_restore_iff genesis _ _).mpr later⟩

/-- No delivery changes the gap of a symbol, whatever the delivery comes to. Hence an engine whose
records are balanced stays balanced in every run, and so does one that has loaded a balanced genesis
state, such as the empty one, into empty stores. -/
theorem gap_conserved :
    (∀ engine : Engine, engine.Reachable → ∀ (envelope : Envelope) (symbol : String),
      ∃ gap, engine.gap symbol = .ok gap ∧ (engine.deliver envelope).2.gap symbol = .ok gap) ∧
    (∀ (engine : Engine) (state : GenesisState), engine.Reachable →
      engine.exportState = .ok state → state.Balanced → ∀ envelopes : List Envelope,
        ∃ after, (engine.run envelopes).exportState = .ok after ∧ after.Balanced) ∧
    (∀ (engine : Engine) (genesis : GenesisState), engine.Loaded genesis → genesis.Balanced →
      ∀ envelopes : List Envelope,
        ∃ after, (engine.run envelopes).exportState = .ok after ∧ after.Balanced) ∧
    GenesisState.empty.Balanced := by
  refine ⟨fun engine reachable envelope symbol => ?_,
    fun engine state reachable exported balanced envelopes => ?_,
    fun engine genesis loaded balanced envelopes => ?_, GenesisState.balanced_empty⟩
  · obtain ⟨book, sound⟩ := reachable.sound
    obtain ⟨after, later, same⟩ := sound.deliver_gap envelope
    exact ⟨book.gap symbol, sound.gap_eq symbol, same symbol ▸ later.gap_eq symbol⟩
  · obtain ⟨book, sound⟩ := reachable.sound
    refine sound.run_balanced (fun symbol => ?_) envelopes
    obtain rfl : book.records = state := Except.ok.inj (sound.exportState_eq.symm.trans exported)
    rw [← sound.complete.gap_records, GenesisState.balanced_iff.mp balanced]
  · obtain ⟨valid, sound⟩ := loaded.sound
    refine sound.run_balanced (fun symbol => ?_) envelopes
    rw [Book.gap_load valid, GenesisState.balanced_iff.mp balanced]

theorem loaded_oneToken : oneToken.Loaded .oneToken := by
  rw [oneToken]
  exact .initGenesis (.new _ _) rfl (congrArg Prod.fst (initGenesis_oneToken _ _))

theorem balanced_oneToken : GenesisState.oneToken.Balanced := by
  intro symbol
  by_cases own : symbol = "GLD-1A2"
  · subst own
    decide +kernel
  · have nothing (amount : Amount) : (Coins.single "GLD-1A2" amount).amountOf symbol = 0 := by
      rw [Coins.single, Coins.amountOf, SortedMap.get?_insert_other _ own]
      rfl
    have unregistered : GenesisState.oneToken.supply symbol = 0 := by
      rw [GenesisState.supply, GenesisState.oneToken, List.find?_cons,
        decide_eq_false fun same => own same.symm]
      rfl
    have unheld : GenesisState.oneToken.holdings symbol = 0 := by
      simp [GenesisState.holdings, GenesisState.oneToken, Account.holding, Account.unfrozen,
        Account.frozen, nothing]
    rw [unregistered, unheld]

theorem gap_conserved_oneToken :
    oneToken.Loaded .oneToken ∧ GenesisState.oneToken.Balanced ∧
      ∃ after, (oneToken.run [.freezeOneToken]).exportState = .ok after ∧ after.Balanced :=
  ⟨loaded_oneToken, balanced_oneToken,
    gap_conserved.2.2.1 oneToken .oneToken loaded_oneToken balanced_oneToken [.freezeOneToken]⟩

end TokenLedger.Engine
