/-
This file proves that the exported state of an engine, its place in the sequence and the number of
symbols that have been proposed are all that later requests depend on. Two engines are alike when
they keep one book, each in its own format, and stand at the same place. Alike engines look the same
from outside, and a delivery gives the same outcome in both and leaves them alike; by induction on
the envelopes no run tells them apart. An engine that has been restored from the state of another is
alike to it, as long as the other has loaded a genesis state: restoring counts as loading one.
-/

import Mathlib
import TokenLedger.Proofs.Engine.Invariants

namespace TokenLedger

/-- What can be seen of an engine from outside. -/
structure Observation where
  state : Except Fault GenesisState
  hash : Except Fault String
  lastSequence : UInt64
  /-- How many symbols have been proposed. -/
  nonce : UInt64

namespace Engine

variable {engine other : Engine} {book : Book}

def observe (engine : Engine) : Observation :=
  ⟨engine.exportState, engine.stateHash, engine.lastSequence, engine.generator.nonce⟩

/-- What is seen of an engine that is given envelopes in order, whatever becomes of each: every
outcome, and the engine after it. -/
def trace (engine : Engine) : List Envelope → List (Outcome × Observation)
  | [] => []
  | envelope :: rest =>
    ((engine.deliver envelope).1, (engine.deliver envelope).2.observe) ::
      (engine.deliver envelope).2.trace rest

/-- An engine that has not loaded a genesis state. -/
def unloaded : Engine :=
  new ⟨.json, {}⟩ (.digest 0 3)

theorem Sound.stateHash_eq (sound : engine.Sound book) :
    engine.stateHash = .ok book.records.hash := by
  rw [stateHash, sound.exportState_eq]
  rfl

/-- Every state that is seen could be exported, and is the one that the digest is of. -/
theorem Sound.seen_of_mem_trace (sound : engine.Sound book) (envelopes : List Envelope)
    {seen : Outcome × Observation} (member : seen ∈ engine.trace envelopes) :
    ∃ state, seen.2.state = .ok state ∧ seen.2.hash = .ok state.hash := by
  induction envelopes generalizing engine book with
  | nil => cases member
  | cons envelope rest inductionHypothesis =>
    obtain ⟨after, later, _⟩ := sound.deliver envelope
    rcases List.mem_cons.mp member with rfl | member
    · exact ⟨after.records, later.exportState_eq, later.stateHash_eq⟩
    · exact inductionHypothesis later member

/-! ### Engines that are alike -/

/-- Two engines keep one book, each in its own format, and go on from the same place by the same
rules. -/
structure Alike (book : Book) (engine other : Engine) : Prop where
  sound : engine.Sound book
  kept : other.Keeps book
  params : other.setup.params = engine.setup.params
  generator : other.generator = engine.generator
  lastSequence : other.lastSequence = engine.lastSequence
  initialized : other.initialized = engine.initialized

theorem Alike.soundOther (alike : Alike book engine other) : other.Sound book :=
  ⟨alike.kept, alike.sound.complete, fun initialized =>
    alike.sound.named (alike.initialized.symm.trans initialized)⟩

theorem Alike.observe_eq (alike : Alike book engine other) : other.observe = engine.observe := by
  unfold observe
  rw [alike.soundOther.exportState_eq, alike.sound.exportState_eq, alike.soundOther.stateHash_eq,
    alike.sound.stateHash_eq, alike.lastSequence, alike.generator]

theorem Alike.checkEnvelope_eq (alike : Alike book engine other) (envelope : Envelope) :
    other.checkEnvelope envelope = engine.checkEnvelope envelope := by
  unfold checkEnvelope
  rw [alike.lastSequence, alike.initialized]

/-- A delivery comes to the same in alike engines, and leaves them alike. -/
theorem Alike.deliver (alike : Alike book engine other) (envelope : Envelope) :
    (other.deliver envelope).1 = (engine.deliver envelope).1 ∧
      ∃ after, Alike after (engine.deliver envelope).2 (other.deliver envelope).2 := by
  have checked := alike.checkEnvelope_eq envelope
  cases accepted : engine.checkEnvelope envelope with
  | error fault =>
    rw [deliver_eq, deliver_eq, checked, accepted]
    exact ⟨rfl, book, alike⟩
  | ok _ =>
    rw [accepted] at checked
    have complete := alike.sound.complete
    have names := alike.sound.named (initialized_of_checkEnvelope accepted)
    rw [alike.sound.kept.deliver complete names accepted,
      alike.kept.deliver complete names checked, alike.params, alike.generator]
    cases posted : book.post engine.setup.params engine.generator.candidate engine.generator.nonce
        envelope.request with
    | error fault =>
      exact ⟨rfl, book, ⟨alike.sound.kept, complete, fun _ => names⟩, alike.kept, alike.params,
        rfl, rfl, alike.initialized⟩
    | ok result =>
      obtain ⟨receipt, after, next⟩ := result
      have succeeded := Book.posted_of_post posted
      exact ⟨rfl, after, ⟨rfl, succeeded.complete complete, fun _ => succeeded.namesSupply names⟩,
        rfl, alike.params, rfl, rfl, alike.initialized⟩

/-- By induction on the envelopes, no run tells alike engines apart. -/
theorem Alike.trace_eq (alike : Alike book engine other) (envelopes : List Envelope) :
    other.trace envelopes = engine.trace envelopes := by
  induction envelopes generalizing engine other book with
  | nil => rfl
  | cons envelope rest inductionHypothesis =>
    obtain ⟨outcome, after, later⟩ := alike.deliver envelope
    rw [trace, trace, outcome, later.observe_eq, inductionHypothesis later]

/-! ### Restoring -/

theorem initGenesis_generator (engine : Engine) (genesis : GenesisState) :
    (engine.initGenesis genesis).2.generator = engine.generator := by
  unfold initGenesis
  by_cases twice : engine.initialized = true
  · rw [if_pos twice]
  · rw [if_neg twice]
    cases genesis.load engine.setup.format engine.store with
    | mk loaded store =>
      cases loaded with
      | error fault => rfl
      | ok _ =>
        dsimp only
        split <;> rfl

/-- The records of a book are restored to stores that keep the book. -/
theorem restore_records (complete : book.Complete) (names : book.NamesSupply) (setup : Setup)
    (generator : SymbolGenerator) (sequence nonce : UInt64) :
    (new setup generator).restore book.records sequence nonce =
      (.ok (),
        { setup
          generator := generator.resume nonce
          store := book.stored setup.format
          lastSequence := sequence
          initialized := true }) := by
  have reloaded := complete.load_records
  have loaded := initGenesis_new (complete.validate_records names) (reloaded.symm ▸ names) setup
    generator
  rw [restore, loaded, reloaded]
  rfl

theorem Sound.alike_restored (sound : engine.Sound book) (initialized : engine.initialized = true)
    (format : RecordFormat) :
    Alike book engine
      { setup := ⟨format, engine.setup.params⟩
        generator := engine.generator
        store := book.stored format
        lastSequence := engine.lastSequence
        initialized := true } :=
  ⟨sound, rfl, rfl, rfl, rfl, initialized.symm⟩

/-- The state of an engine that has loaded a genesis state can be restored to a new engine with the
same rules and the same proposals, in either format, and no envelopes tell the two engines apart. -/
theorem restore_indistinguishable (reachable : engine.Reachable)
    (initialized : engine.initialized = true) (format : RecordFormat)
    (generator : SymbolGenerator) (proposals : generator.candidate = engine.generator.candidate) :
    ∃ state restored, engine.exportState = .ok state ∧
      (new ⟨format, engine.setup.params⟩ generator).restore state engine.lastSequence
        engine.generator.nonce = (.ok (), restored) ∧
      restored.observe = engine.observe ∧
      ∀ envelopes, restored.trace envelopes = engine.trace envelopes ∧
        ∀ seen ∈ engine.trace envelopes,
          ∃ state, seen.2.state = .ok state ∧ seen.2.hash = .ok state.hash := by
  obtain ⟨book, sound⟩ := reachable.sound
  have resumed : generator.resume engine.generator.nonce = engine.generator := by
    rw [SymbolGenerator.resume, proposals]
  have alike := sound.alike_restored initialized format
  refine ⟨book.records, _, sound.exportState_eq, ?_, alike.observe_eq, fun envelopes =>
    ⟨alike.trace_eq envelopes, fun seen => sound.seen_of_mem_trace envelopes⟩⟩
  rw [restore_records sound.complete (sound.named initialized), resumed]

theorem restore_indistinguishable_oneToken :
    oneToken.Reachable ∧ oneToken.initialized = true ∧
      (SymbolGenerator.digest 0 3).candidate = oneToken.generator.candidate ∧
      ∃ state restored, oneToken.exportState = .ok state ∧
        ((new ⟨.proto, oneToken.setup.params⟩ (.digest 0 3)).restore state oneToken.lastSequence
          oneToken.generator.nonce) = (.ok (), restored) ∧
        restored.trace [.freezeOneToken] = oneToken.trace [.freezeOneToken] :=
  have initialized : oneToken.initialized = true := by decide +kernel
  have proposals : (SymbolGenerator.digest 0 3).candidate = oneToken.generator.candidate := by
    rw [oneToken, initGenesis_generator, new]
  have ⟨state, restored, exported, restoring, _, runs⟩ :=
    restore_indistinguishable oneToken_reachable initialized .proto (.digest 0 3) proposals
  ⟨oneToken_reachable, initialized, proposals, state, restored, exported, restoring,
    (runs [.freezeOneToken]).1⟩

/-- Restoring the empty state of an engine that has not loaded a genesis state makes a difference:
envelopes are then accepted. -/
theorem restore_starts_unloaded :
    unloaded.Reachable ∧ unloaded.exportState = .ok .empty ∧
      ((new ⟨.json, {}⟩ (.digest 0 3)).restore .empty unloaded.lastSequence
        unloaded.generator.nonce).1 = .ok () ∧
      (unloaded.deliver .freezeOneToken).1 = .error .noGenesis ∧
      (((new ⟨.json, {}⟩ (.digest 0 3)).restore .empty unloaded.lastSequence
        unloaded.generator.nonce).2.deliver .freezeOneToken).1 =
          .error (.balanceTooLow "alice" "GLD-1A2" 0 10) :=
  ⟨.new _ _, by decide +kernel, by decide +kernel, by decide +kernel, by decide +kernel⟩

end Engine

end TokenLedger
