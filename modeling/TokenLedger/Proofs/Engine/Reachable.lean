/-
This file finds the book of every engine that can be reached. An engine starts without records; from
then on genesis states are loaded, with or without success, and envelopes are delivered to callers
who may refuse an outcome. A genesis state that is refused may have left its records behind, so only
the rules that hold for single records are kept in every reachable engine; once a genesis state has
been accepted, the supply of every token names its denomination as well.
-/

import Mathlib
import TokenLedger.Proofs.Engine.Refinement
import TokenLedger.Proofs.Ledger.Loading

namespace TokenLedger

/-- A genesis state with one token, all of it held by its owner. -/
def GenesisState.oneToken : GenesisState :=
  ⟨[⟨"alice", "Gold", "GLD-1A2", "GLD", Coins.single "GLD-1A2" 100, true⟩],
    [⟨"alice", Coins.single "GLD-1A2" 60, Coins.single "GLD-1A2" 40⟩]⟩

/-- Freeze a part of what the owner of the one token can spend. -/
def Envelope.freezeOneToken : Envelope :=
  ⟨1, TokenLedger.schemaVersion, .order .freeze ⟨"10", "GLD-1A2", "alice"⟩⟩

namespace Engine

/-- The engines that come about from a new one. -/
inductive Reachable : Engine → Prop
  | new (setup : Setup) (generator : SymbolGenerator) : Reachable (.new setup generator)
  | initGenesis {engine : Engine} (reachable : Reachable engine) (genesis : GenesisState) :
      Reachable (engine.initGenesis genesis).2
  | restore {engine : Engine} (reachable : Reachable engine) (genesis : GenesisState)
      (sequence nonce : UInt64) : Reachable (engine.restore genesis sequence nonce).2
  | deliverThen {engine : Engine} {ε : Type} (reachable : Reachable engine) (envelope : Envelope)
      (persist : Outcome → Id (Except ε Unit)) :
      Reachable (engine.deliverThen envelope persist).2

/-- The engine that keeps its records as documents and has loaded one token. -/
def oneToken : Engine :=
  ((new ⟨.json, {}⟩ (.digest 0 3)).initGenesis .oneToken).2

theorem oneToken_reachable : oneToken.Reachable := by
  rw [oneToken]
  exact .initGenesis (.new _ _) _

/-- The stores of an engine keep a book whose records follow the rules. -/
structure Sound (engine : Engine) (book : Book) : Prop where
  kept : engine.Keeps book
  complete : book.Complete
  named : engine.initialized = true → book.NamesSupply

variable {engine : Engine} {book : Book}

theorem sound_new (setup : Setup) (generator : SymbolGenerator) :
    (new setup generator).Sound .empty :=
  ⟨Book.stored_empty setup.format, Book.complete_empty, fun _ => Book.namesSupply_empty⟩

/-! ### Loading a genesis state -/

/-- A genesis state that passes its checks is stored, and accepted if the supply of every token then
names its denomination. -/
theorem Sound.initGenesis_eq (sound : engine.Sound book) (fresh : engine.initialized = false)
    {genesis : GenesisState} (valid : genesis.validate = .ok ()) :
    (∃ fault, engine.initGenesis genesis =
        (.error fault, { engine with store := (book.load genesis).stored engine.setup.format }) ∧
      ¬ (book.load genesis).NamesSupply) ∨
    (engine.initGenesis genesis =
        (.ok (),
          { engine with
            store := (book.load genesis).stored engine.setup.format
            initialized := true }) ∧
      (book.load genesis).NamesSupply) := by
  have loaded : genesis.load engine.setup.format engine.store =
      (.ok (), (book.load genesis).stored engine.setup.format) := by
    rw [sound.kept]
    exact GenesisState.load_stored valid book
  have check : checkRecords engine.setup.format
      (.ofStore ((book.load genesis).stored engine.setup.format).tokens)
      (.ofStore ((book.load genesis).stored engine.setup.format).accounts) = .ok () ↔
        (book.load genesis).NamesSupply :=
    checkRecords_eq_ok_iff (sound.complete.load valid) (LayeredStore.view_ofStore _)
      (LayeredStore.view_ofStore _)
  have notTwice : ¬ engine.initialized = true := by simp [fresh]
  rw [initGenesis, if_neg notTwice, loaded]
  simp only [LedgerStore.plain]
  cases checked : checkRecords engine.setup.format
      (.ofStore ((book.load genesis).stored engine.setup.format).tokens)
      (.ofStore ((book.load genesis).stored engine.setup.format).accounts) with
  | error fault =>
    refine .inl ⟨fault, rfl, fun names => ?_⟩
    rw [check.mpr names] at checked
    cases checked
  | ok _ => exact .inr ⟨rfl, check.mp checked⟩

/-- A genesis state that is not even tried changes nothing. -/
theorem initGenesis_refused {genesis : GenesisState}
    (refused : engine.initialized = true ∨ ∃ fault, genesis.validate = .error fault) :
    ∃ fault, engine.initGenesis genesis = (.error fault, engine) := by
  by_cases loadedBefore : engine.initialized = true
  · exact ⟨_, by rw [initGenesis, if_pos loadedBefore]⟩
  · rcases refused with again | ⟨fault, invalid⟩
    · exact absurd again loadedBefore
    · refine ⟨fault, ?_⟩
      rw [initGenesis, if_neg loadedBefore, GenesisState.load_of_not_valid invalid]

/-- What loading a genesis state comes to: it is not even tried, its records are stored but it is
refused for a supply, or it is accepted. -/
theorem Sound.initGenesis_cases (sound : engine.Sound book) (genesis : GenesisState) :
    (∃ fault, engine.initGenesis genesis = (.error fault, engine)) ∨
    genesis.validate = .ok () ∧
      ((∃ fault, engine.initGenesis genesis =
          (.error fault, { engine with store := (book.load genesis).stored engine.setup.format }) ∧
        engine.initialized = false) ∨
      (engine.initGenesis genesis =
          (.ok (),
            { engine with
              store := (book.load genesis).stored engine.setup.format
              initialized := true }) ∧
        (book.load genesis).NamesSupply)) := by
  by_cases refused : engine.initialized = true ∨ ∃ fault, genesis.validate = .error fault
  · exact .inl (initGenesis_refused refused)
  · obtain ⟨fresh, valid⟩ := not_or.mp refused
    have fresh : engine.initialized = false := Bool.eq_false_of_not_eq_true fresh
    have valid : genesis.validate = .ok () := by
      cases validated : genesis.validate with
      | error fault => exact absurd ⟨fault, validated⟩ valid
      | ok _ => rfl
    refine .inr ⟨valid, ?_⟩
    rcases sound.initGenesis_eq fresh valid with ⟨fault, loaded, _⟩ | accepted
    · exact .inl ⟨fault, loaded, fresh⟩
    · exact .inr accepted

/-- Loading keeps the book as it is, or loads the records into it, whether or not the genesis state
is accepted. -/
theorem Sound.initGenesis (sound : engine.Sound book) (genesis : GenesisState) :
    ∃ after, (engine.initGenesis genesis).2.Sound after ∧
      (after = book ∨ genesis.validate = .ok () ∧ after = book.load genesis) := by
  rcases sound.initGenesis_cases genesis with
    ⟨fault, unchanged⟩ | ⟨valid, ⟨fault, loaded, fresh⟩ | ⟨loaded, names⟩⟩
  · exact ⟨book, unchanged ▸ sound, .inl rfl⟩
  · refine ⟨book.load genesis, ?_, .inr ⟨valid, rfl⟩⟩
    rw [loaded]
    refine ⟨rfl, sound.complete.load valid, fun initialized => ?_⟩
    have initialized : engine.initialized = true := initialized
    rw [fresh] at initialized
    cases initialized
  · refine ⟨book.load genesis, ?_, .inr ⟨valid, rfl⟩⟩
    rw [loaded]
    exact ⟨rfl, sound.complete.load valid, fun _ => names⟩

/-- After a genesis state is accepted, the stores keep the book into which it has been loaded. -/
theorem Sound.initGenesis_of_accepted (sound : engine.Sound book) {genesis : GenesisState}
    (accepted : (engine.initGenesis genesis).1 = .ok ()) :
    genesis.validate = .ok () ∧ (engine.initGenesis genesis).2.Sound (book.load genesis) := by
  rcases sound.initGenesis_cases genesis with
    ⟨fault, unchanged⟩ | ⟨valid, ⟨fault, loaded, _⟩ | ⟨loaded, names⟩⟩
  · rw [unchanged] at accepted
    cases accepted
  · rw [loaded] at accepted
    cases accepted
  · rw [loaded]
    exact ⟨valid, rfl, sound.complete.load valid, fun _ => names⟩

/-- A new engine accepts a genesis state that passes its checks if the supply of every token names
its denomination, and its stores then keep the book of the state. -/
theorem initGenesis_new {genesis : GenesisState} (valid : genesis.validate = .ok ())
    (names : (Book.empty.load genesis).NamesSupply) (setup : Setup)
    (generator : SymbolGenerator) :
    (new setup generator).initGenesis genesis =
      (.ok (),
        { new setup generator with
          store := (Book.empty.load genesis).stored setup.format
          initialized := true }) := by
  rcases (sound_new setup generator).initGenesis_eq rfl valid with
    ⟨fault, _, unnamed⟩ | ⟨loaded, _⟩
  · exact absurd names unnamed
  · exact loaded

/-- A new engine accepts the genesis state with one token. -/
theorem initGenesis_oneToken (setup : Setup) (generator : SymbolGenerator) :
    (new setup generator).initGenesis .oneToken =
      (.ok (),
        { new setup generator with
          store := (Book.empty.load .oneToken).stored setup.format
          initialized := true }) :=
  initGenesis_new (by decide) ((Book.namesSupply_load_empty_iff (by decide)).mpr (by decide)) setup
    generator

theorem oneToken_initialized : oneToken.initialized = true := by
  rw [oneToken, initGenesis_oneToken]

theorem oneToken_lastSequence : oneToken.lastSequence = 0 := by
  rw [oneToken, initGenesis_oneToken, new]

/-- A genesis state that a new engine has accepted passes its checks, and the supply of every token
names its denomination. -/
theorem of_initGenesis_new {setup : Setup} {generator : SymbolGenerator} {genesis : GenesisState}
    (accepted : ((new setup generator).initGenesis genesis).1 = .ok ()) :
    genesis.validate = .ok () ∧ (Book.empty.load genesis).NamesSupply := by
  rcases (sound_new setup generator).initGenesis_cases genesis with
    ⟨fault, unchanged⟩ | ⟨valid, ⟨fault, loaded, _⟩ | ⟨_, names⟩⟩
  · rw [unchanged] at accepted
    cases accepted
  · rw [loaded] at accepted
    cases accepted
  · exact ⟨valid, names⟩

theorem restore_outcome (engine : Engine) (genesis : GenesisState) (sequence nonce : UInt64) :
    (engine.restore genesis sequence nonce).1 = (engine.initGenesis genesis).1 := by
  rw [Engine.restore]
  cases engine.initGenesis genesis with
  | mk outcome later =>
    cases outcome with
    | error fault => rfl
    | ok _ => rfl

/-- Restoring is loading, but for the place in the sequence and the number of proposals. -/
theorem sound_restore_iff (genesis : GenesisState) (sequence nonce : UInt64) :
    (engine.restore genesis sequence nonce).2.Sound book ↔
      (engine.initGenesis genesis).2.Sound book := by
  rw [Engine.restore]
  cases engine.initGenesis genesis with
  | mk outcome later =>
    cases outcome with
    | error fault => exact Iff.rfl
    | ok _ =>
      exact ⟨fun sound => ⟨sound.kept, sound.complete, sound.named⟩,
        fun sound => ⟨sound.kept, sound.complete, sound.named⟩⟩

theorem Sound.restore (sound : engine.Sound book) (genesis : GenesisState)
    (sequence nonce : UInt64) :
    ∃ after, (engine.restore genesis sequence nonce).2.Sound after ∧
      (after = book ∨ genesis.validate = .ok () ∧ after = book.load genesis) := by
  obtain ⟨after, loaded, kept⟩ := sound.initGenesis genesis
  exact ⟨after, (sound_restore_iff genesis sequence nonce).mpr loaded, kept⟩

/-! ### Delivering an envelope -/

/-- An accepted envelope comes after a genesis state. -/
theorem initialized_of_checkEnvelope {envelope : Envelope}
    (accepted : engine.checkEnvelope envelope = .ok ()) : engine.initialized = true := by
  unfold checkEnvelope at accepted
  dsimp only at accepted
  simp only [ite_error_eq_ok_iff, Bool.not_eq_true', Bool.not_eq_false] at accepted
  exact accepted.2.2.1

/-- Without a genesis state, no envelope is accepted. -/
theorem checkEnvelope_of_not_initialized (unloaded : engine.initialized = false)
    (envelope : Envelope) : ∃ fault, engine.checkEnvelope envelope = .error fault := by
  cases accepted : engine.checkEnvelope envelope with
  | error fault => exact ⟨fault, rfl⟩
  | ok _ =>
    have initialized := initialized_of_checkEnvelope accepted
    rw [unloaded] at initialized
    cases initialized

theorem deliverThen_of_not_initialized {ε : Type} (unloaded : engine.initialized = false)
    (envelope : Envelope) (persist : Outcome → Id (Except ε Unit)) :
    (engine.deliverThen envelope persist).2 = engine := by
  obtain ⟨fault, refused⟩ := checkEnvelope_of_not_initialized unloaded envelope
  rw [deliverThen, refused]
  rfl

/-- A delivery is refused, which may still use up a place in the sequence, or it posts the request
to the book. -/
theorem Sound.deliver_cases (sound : engine.Sound book) (envelope : Envelope) :
    (∃ fault place,
      engine.deliver envelope = (.error fault, { engine with lastSequence := place })) ∨
    ∃ receipt after next,
      Book.Posted engine.setup.params engine.generator.candidate engine.generator.nonce book
        envelope.request receipt after next ∧
      engine.deliver envelope =
        (.ok receipt,
          { engine with
            store := after.stored engine.setup.format
            generator := ⟨engine.generator.candidate, next⟩
            lastSequence := envelope.sequence }) := by
  cases accepted : engine.checkEnvelope envelope with
  | error fault => exact .inl ⟨fault, engine.lastSequence, by rw [deliver_eq, accepted]⟩
  | ok _ =>
    have names := sound.named (initialized_of_checkEnvelope accepted)
    have delivered := sound.kept.deliver sound.complete names accepted
    cases posted : book.post engine.setup.params engine.generator.candidate
        engine.generator.nonce envelope.request with
    | error fault =>
      rw [posted] at delivered
      exact .inl ⟨fault, envelope.sequence, delivered⟩
    | ok result =>
      obtain ⟨receipt, after, next⟩ := result
      rw [posted] at delivered
      exact .inr ⟨receipt, after, next, Book.posted_of_post posted, delivered⟩

/-- The outcome of an accepted envelope is that of the posting. -/
theorem Sound.deliver_fst (sound : engine.Sound book) {envelope : Envelope}
    (accepted : engine.checkEnvelope envelope = .ok ()) :
    (engine.deliver envelope).1 =
      (book.post engine.setup.params engine.generator.candidate engine.generator.nonce
        envelope.request).map fun posted => posted.1 := by
  have names := sound.named (initialized_of_checkEnvelope accepted)
  rw [sound.kept.deliver sound.complete names accepted]
  cases book.post engine.setup.params engine.generator.candidate engine.generator.nonce
      envelope.request <;> rfl

/-- The place in the sequence does not matter to the book. -/
theorem Sound.withPlace (sound : engine.Sound book) (place : UInt64) :
    Sound { engine with lastSequence := place } book :=
  ⟨sound.kept, sound.complete, sound.named⟩

/-- The bytes of a book that has been posted keep that book. -/
theorem Sound.withPosted (sound : engine.Sound book) {request : Request} {receipt : Receipt}
    {after : Book} {next : UInt64}
    (posted : Book.Posted engine.setup.params engine.generator.candidate engine.generator.nonce book
      request receipt after next) (place : UInt64) :
    Sound
      { engine with
        store := after.stored engine.setup.format
        generator := ⟨engine.generator.candidate, next⟩
        lastSequence := place } after :=
  ⟨rfl, posted.complete sound.complete, fun initialized =>
    posted.namesSupply (sound.named initialized)⟩

/-- A delivery keeps the book as it is, or posts the request to it. -/
theorem Sound.deliver (sound : engine.Sound book) (envelope : Envelope) :
    ∃ after, (engine.deliver envelope).2.Sound after ∧
      (after = book ∨ ∃ receipt next, Book.Posted engine.setup.params engine.generator.candidate
        engine.generator.nonce book envelope.request receipt after next) := by
  rcases sound.deliver_cases envelope with
    ⟨fault, place, refused⟩ | ⟨receipt, after, next, posted, delivered⟩
  · rw [refused]
    exact ⟨book, sound.withPlace place, .inl rfl⟩
  · rw [delivered]
    exact ⟨after, sound.withPosted posted _, .inr ⟨receipt, next, posted⟩⟩

theorem Sound.deliverThen {ε : Type} (sound : engine.Sound book) (envelope : Envelope)
    (persist : Outcome → Id (Except ε Unit)) :
    ∃ after, (engine.deliverThen envelope persist).2.Sound after ∧
      (after = book ∨ ∃ receipt next, Book.Posted engine.setup.params engine.generator.candidate
        engine.generator.nonce book envelope.request receipt after next) := by
  rcases deliverThen_engine engine envelope persist with unchanged | delivered
  · rw [unchanged]
    exact ⟨book, sound, .inl rfl⟩
  · rw [delivered]
    exact sound.deliver envelope

/-- Every engine that can be reached keeps a book whose records follow the rules. -/
theorem Reachable.sound (reachable : engine.Reachable) : ∃ book, engine.Sound book := by
  induction reachable with
  | new setup generator => exact ⟨.empty, sound_new setup generator⟩
  | initGenesis reachable genesis inductionHypothesis =>
    obtain ⟨book, sound⟩ := inductionHypothesis
    obtain ⟨after, loaded, _⟩ := sound.initGenesis genesis
    exact ⟨after, loaded⟩
  | restore reachable genesis sequence nonce inductionHypothesis =>
    obtain ⟨book, sound⟩ := inductionHypothesis
    obtain ⟨after, loaded, _⟩ := sound.restore genesis sequence nonce
    exact ⟨after, loaded⟩
  | deliverThen reachable envelope persist inductionHypothesis =>
    obtain ⟨book, sound⟩ := inductionHypothesis
    obtain ⟨after, delivered, _⟩ := sound.deliverThen envelope persist
    exact ⟨after, delivered⟩

end Engine

end TokenLedger
