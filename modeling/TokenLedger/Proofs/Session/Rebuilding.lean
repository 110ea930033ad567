/-
This file proves that a snapshot which belongs to a log stands for the envelopes up to its place:
restoring it and delivering the envelopes after that place gives the very engine that is built from
the genesis state and all envelopes. A snapshot belongs to a log if it holds the state, the place
and the number of proposals of the ledger that some first part of the envelopes builds.
-/

import Mathlib
import TokenLedger.Proofs.Engine.Replay
import TokenLedger.Proofs.Snapshot.Files
import TokenLedger.Session.Rebuild

namespace TokenLedger

variable {settings : Settings} {genesis state : GenesisState} {engine start after : Engine}
  {envelope : Envelope} {envelopes : List Envelope} {outcomes : List Outcome} {rebuilt : Rebuilt}

namespace Settings

/-- The engine has loaded a genesis state and goes by the settings, and its stores keep a book. -/
structure Runs (settings : Settings) (engine : Engine) : Prop where
  rules : settings.newEngine.setup = engine.setup
  proposals : settings.newEngine.generator.candidate = engine.generator.candidate
  initialized : engine.initialized = true
  sound : ∃ book, engine.Sound book

theorem Runs.deliverAll (runs : settings.Runs engine)
    (run : engine.deliverAll envelopes = (.ok outcomes, after)) : settings.Runs after := by
  obtain ⟨book, sound⟩ := runs.sound
  obtain ⟨_, _, same⟩ := Engine.deliverAll_eq_ok run
  have kept := sound.deliverAll envelopes
  rw [run] at kept
  exact ⟨runs.rules.trans same.setup.symm, runs.proposals.trans same.candidate.symm,
    same.initialized.trans runs.initialized, kept⟩

/-- The state of an engine can be restored, and gives back the engine. -/
theorem Runs.restore (runs : settings.Runs engine) :
    ∃ state, engine.exportState = .ok state ∧ engine.stateHash = .ok state.hash ∧
      state.sorted = state ∧
      settings.newEngine.restore state engine.lastSequence engine.generator.nonce =
        (.ok (), engine) := by
  obtain ⟨book, sound⟩ := runs.sound
  refine ⟨book.records, sound.exportState_eq, sound.stateHash_eq, sound.complete.sorted_records, ?_⟩
  have restored := sound.restore_exported runs.initialized runs.proposals
  rwa [← runs.rules] at restored

/-- An engine that starts from an accepted genesis state stands at the beginning. -/
theorem runs_of_initGenesis (started : settings.newEngine.initGenesis genesis = (.ok (), start)) :
    settings.Runs start ∧ start.lastSequence = 0 ∧ start.generator.nonce = 0 := by
  obtain ⟨valid, names⟩ := Engine.of_initGenesis_new (congrArg Prod.fst started)
  have sound := (Engine.sound_new _ _).initGenesis_of_accepted (congrArg Prod.fst started)
  rw [newEngine, Engine.initGenesis_new valid names] at started
  obtain ⟨_, rfl⟩ := Prod.mk.inj started
  exact ⟨⟨rfl, rfl, rfl, _, rfl, (Book.complete_empty).load valid, fun _ => names⟩, rfl, rfl⟩

/-- The genesis state is accepted, and the envelopes after it come to the engine. -/
def Builds (settings : Settings) (genesis : GenesisState) (envelopes : List Envelope)
    (engine : Engine) : Prop :=
  ∃ start outcomes, settings.newEngine.initGenesis genesis = (.ok (), start) ∧
    start.deliverAll envelopes = (.ok outcomes, engine)

theorem builds_of_rebuild (run : settings.rebuild genesis envelopes = .ok rebuilt) :
    settings.Builds genesis envelopes rebuilt.engine := by
  rw [rebuild] at run
  cases started : settings.newEngine.initGenesis genesis with
  | mk accepted start =>
    rw [started] at run
    cases accepted with
    | error fault => cases run
    | ok _ =>
      dsimp only at run
      cases delivered : start.deliverAll envelopes with
      | mk result after =>
        rw [delivered] at run
        cases result with
        | error fault => cases run
        | ok outcomes =>
          obtain ⟨hash, _, built⟩ := bind_eq_ok run
          obtain rfl := Except.ok.inj built
          exact ⟨start, outcomes, started, delivered⟩

/-- What envelopes come to after an accepted genesis state can be rebuilt. -/
theorem Builds.rebuild (builds : settings.Builds genesis envelopes engine) :
    ∃ outcomes hash, engine.stateHash = .ok hash ∧
      settings.rebuild genesis envelopes = .ok ⟨engine, outcomes, hash⟩ := by
  obtain ⟨start, outcomes, started, run⟩ := builds
  obtain ⟨state, _, hashed, _⟩ := ((runs_of_initGenesis started).1.deliverAll run).restore
  refine ⟨outcomes, state.hash, hashed, ?_⟩
  rw [Settings.rebuild, started]
  simp only [run, hashed]
  rfl

theorem Builds.runs (builds : settings.Builds genesis envelopes engine) :
    settings.Runs engine := by
  obtain ⟨start, outcomes, started, run⟩ := builds
  exact (runs_of_initGenesis started).1.deliverAll run

/-- The envelopes are numbered from one, and the engine stands at the last of them. -/
theorem Builds.numbered (builds : settings.Builds genesis envelopes engine) :
    Numbered Envelope.sequence 0 envelopes ∧
      engine.lastSequence = UInt64.ofNat envelopes.length := by
  obtain ⟨start, outcomes, started, run⟩ := builds
  obtain ⟨_, place, _⟩ := runs_of_initGenesis started
  obtain ⟨numbered, last, _⟩ := Engine.deliverAll_eq_ok run
  rw [place] at numbered last
  refine ⟨numbered, ?_⟩
  rw [last, numbered.last, UInt64.zero_add]

theorem Builds.deliver (builds : settings.Builds genesis envelopes engine)
    (mild : Outcome.isFatal (engine.deliver envelope).1 = false) :
    settings.Builds genesis (envelopes ++ [envelope]) (engine.deliver envelope).2 := by
  obtain ⟨start, outcomes, started, run⟩ := builds
  refine ⟨start, outcomes ++ [(engine.deliver envelope).1], started, ?_⟩
  rw [Engine.deliverAll_append run, Engine.deliverAll_cons mild]
  rfl

/-- The engine that is built depends on no more than what the genesis state is taken for. -/
theorem rebuild_of_initGenesis {other : GenesisState}
    (same : settings.newEngine.initGenesis genesis = settings.newEngine.initGenesis other) :
    settings.rebuild genesis = settings.rebuild other := by
  funext envelopes
  rw [rebuild, rebuild, same]

end Settings

/-! ### Snapshots that belong to a log -/

namespace Snapshot

variable {snapshot : Snapshot}

/-- The snapshot is of the ledger that a first part of the envelopes builds. -/
def Belongs (settings : Settings) (genesis : GenesisState) (envelopes : List Envelope)
    (snapshot : Snapshot) : Prop :=
  ∃ earlier later rebuilt state, envelopes = earlier ++ later ∧
    settings.rebuild genesis earlier = .ok rebuilt ∧
    rebuilt.engine.exportState = .ok state ∧ snapshot.state = .ok state ∧
    snapshot.sequence = rebuilt.engine.lastSequence ∧
    snapshot.nonce = rebuilt.engine.generator.nonce

/-- The place of the last of some envelopes, or zero. -/
def lastLogged (envelopes : List Envelope) : UInt64 :=
  (envelopes.getLast?.map Envelope.sequence).getD 0

theorem Belongs.append (belongs : snapshot.Belongs settings genesis envelopes)
    (more : List Envelope) : snapshot.Belongs settings genesis (envelopes ++ more) := by
  obtain ⟨earlier, later, rebuilt, state, rfl, rest⟩ := belongs
  exact ⟨earlier, later ++ more, rebuilt, state, List.append_assoc _ _ _, rest⟩

/-- A snapshot of the engine that has been built belongs to the log. -/
theorem belongs_ofState (builds : settings.Builds genesis envelopes engine)
    (exported : engine.exportState = .ok state) :
    (ofState engine.lastSequence engine.generator.nonce state).Belongs settings genesis
      envelopes := by
  obtain ⟨outcomes, hash, _, run⟩ := builds.rebuild
  obtain ⟨found, same, _, sorted, _⟩ := builds.runs.restore
  obtain rfl : state = found := Except.ok.inj (exported.symm.trans same)
  refine ⟨envelopes, [], _, state, (List.append_nil _).symm, run, exported, ?_, rfl, rfl⟩
  rw [state_ofState, sorted]

/-- Going on from a snapshot that belongs to the log gives the engine that all envelopes build. -/
theorem resume?_of_belongs (belongs : snapshot.Belongs settings genesis envelopes)
    (enough : envelopes.length < UInt64.size)
    (run : settings.rebuild genesis envelopes = .ok rebuilt) :
    settings.resume? snapshot envelopes = some rebuilt.engine := by
  obtain ⟨earlier, later, part, state, rfl, partRun, exported, believed, place, nonce⟩ := belongs
  have partBuilds := Settings.builds_of_rebuild partRun
  have builds := Settings.builds_of_rebuild run
  obtain ⟨_, partPlace⟩ := partBuilds.numbered
  obtain ⟨found, same, _, _, restored⟩ := partBuilds.runs.restore
  obtain rfl : state = found := Except.ok.inj (exported.symm.trans same)
  have following : (earlier ++ later).filter
      (fun envelope => snapshot.sequence < envelope.sequence) = later := by
    rw [place, partPlace]
    exact builds.numbered.1.filter_eq enough
  have rest : ∃ outcomes, part.engine.deliverAll later = (.ok outcomes, rebuilt.engine) := by
    obtain ⟨start, outcomes, started, delivered⟩ := builds
    obtain ⟨again, partOutcomes, startedAgain, partDelivered⟩ := partBuilds
    obtain rfl : start = again := by
      rw [started] at startedAgain
      exact congrArg Prod.snd startedAgain
    rw [Engine.deliverAll_append partDelivered] at delivered
    cases tail : part.engine.deliverAll later with
    | mk result last =>
      rw [tail] at delivered
      cases result with
      | error fault => cases delivered
      | ok outcomes => exact ⟨outcomes, congrArg (Prod.mk _) (congrArg Prod.snd delivered)⟩
  obtain ⟨outcomes, rest⟩ := rest
  rw [Settings.resume?, believed, nonce, place]
  rw [place] at following
  simp only [Except.toOption, Option.bind_eq_bind, Option.bind_some, restored, following, rest]

end Snapshot

end TokenLedger
