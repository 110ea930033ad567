/-
The engine of a ledger. It takes one genesis state and then envelopes in sequence, each of which
ends in a receipt or a fault. Only a receipt changes the stores; a receipt and a fault that is not
fatal both use up the envelope's place in the sequence, and a fatal fault leaves everything as it
was. A caller that wants to record outcomes before they take effect is asked for each one, and can
still stop it.
-/

import TokenLedger.Engine.Canonical
import TokenLedger.Engine.Invariant
import TokenLedger.Engine.Query
import TokenLedger.Engine.Transition
import TokenLedger.Request.Envelope

namespace TokenLedger

/-- What a request came to. -/
abbrev Outcome := Except Fault Receipt

/-- A ledger that takes requests. -/
structure Engine where
  setup : Setup
  generator : SymbolGenerator
  store : LedgerStore
  /-- The place in the sequence of the last envelope that was used up. -/
  lastSequence : UInt64
  /-- Whether the genesis state has been loaded. -/
  initialized : Bool

/-- Whether an outcome is a fatal fault. -/
def Outcome.isFatal : Outcome → Bool
  | .ok _ => false
  | .error fault => fault.isFatal

namespace Engine

/-- An engine that has not been given a genesis state. -/
def new (setup : Setup) (generator : SymbolGenerator) : Engine :=
  { setup, generator, store := .empty, lastSequence := 0, initialized := false }

/-- Load the genesis state, which is allowed once. The records are checked once more after they have
been stored. -/
def initGenesis (engine : Engine) (genesis : GenesisState) : Except Fault Unit × Engine :=
  if engine.initialized then (.error (.badGenesis .loadedBefore), engine)
  else
    match genesis.load engine.setup.format engine.store with
    | (.error fault, store) => (.error fault, { engine with store })
    | (.ok (), store) =>
      let scope := store.plain
      match checkRecords engine.setup.format scope.tokens scope.accounts with
      | .error fault => (.error fault, { engine with store })
      | .ok () => (.ok (), { engine with store, initialized := true })

/-- Take a state for the genesis state and go on from a place in the sequence and a number of
proposed symbols. -/
def restore (engine : Engine) (genesis : GenesisState) (sequence nonce : UInt64) :
    Except Fault Unit × Engine :=
  match engine.initGenesis genesis with
  | (.error fault, engine) => (.error fault, engine)
  | (.ok (), engine) =>
    (.ok (), { engine with lastSequence := sequence, generator := engine.generator.resume nonce })

/-- An envelope has to have the accepted version and the next place in the sequence, and to come
after the genesis state. -/
def checkEnvelope (engine : Engine) (envelope : Envelope) : Except Fault Unit :=
  let next := engine.lastSequence + 1
  if envelope.schemaVersion ≠ schemaVersion then
    .error (.wrongSchema schemaVersion envelope.schemaVersion)
  else if envelope.sequence ≠ next then .error (.outOfSequence next envelope.sequence)
  else if !engine.initialized then .error .noGenesis
  else .ok ()

/-- The work that a request starts with: a scope over the stores, and the generator. -/
def work (engine : Engine) : Work :=
  let scope := engine.store.begin
  ⟨scope.tokens, scope.accounts, engine.generator⟩

/-- Carry out a request over pending writes and check the records that it leaves. -/
def attempt (setup : Setup) (request : Request) : Step Receipt := do
  request.validate
  let receipt ← apply setup request
  let work ← get
  checkRecords setup.format work.tokens work.accounts
  return receipt

/-- The engine after a request that comes to nothing: its pending writes are forgotten, and the
generator goes back to the number of proposals from before it. -/
def undo (engine : Engine) (work : Work) : Engine :=
  { engine with
    store := (Scope.mk work.tokens work.accounts).discard
    generator := work.generator.resume engine.generator.nonce }

/-- The engine after an outcome that is not fatal: a receipt makes the pending writes, any other
outcome undoes them, and either way the envelope's place in the sequence is used up. -/
def settle (engine : Engine) (sequence : UInt64) (outcome : Outcome) (work : Work) : Engine :=
  match outcome with
  | .ok _ =>
    { engine with
      store := (Scope.mk work.tokens work.accounts).commit
      generator := work.generator
      lastSequence := sequence }
  | .error _ => { engine.undo work with lastSequence := sequence }

/-- Deliver an envelope, with every outcome that is not fatal put before the caller first. If the
caller refuses it, nothing has happened. -/
def deliverThen {m : Type → Type} [Monad m] {ε : Type} (engine : Engine) (envelope : Envelope)
    (persist : Outcome → m (Except ε Unit)) : m (Except ε Outcome × Engine) :=
  match engine.checkEnvelope envelope with
  | .error fault => return (.ok (.error fault), engine)
  | .ok () =>
    let (outcome, work) := (attempt engine.setup envelope.request).run.run engine.work
    if Outcome.isFatal outcome then return (.ok outcome, engine.undo work)
    else do
      match ← persist outcome with
      | .error refusal => return (.error refusal, engine.undo work)
      | .ok () => return (.ok outcome, engine.settle envelope.sequence outcome work)

/-- Deliver an envelope. -/
def deliver (engine : Engine) (envelope : Envelope) : Outcome × Engine :=
  match (engine.deliverThen envelope fun _ => .ok () : Id (Except Empty Outcome × Engine)) with
  | (.ok outcome, engine) => (outcome, engine)
  | (.error never, _) => nomatch never

/-- Deliver envelopes in order up to the first fatal fault: the outcomes, or that fault. -/
def deliverAll (engine : Engine) : List Envelope → Except Fault (List Outcome) × Engine
  | [] => (.ok [], engine)
  | envelope :: rest =>
    match engine.deliver envelope with
    | (outcome, engine) =>
      match outcome with
      | .error fault =>
        if fault.isFatal then (.error fault, engine)
        else
          let (outcomes, engine) := deliverAll engine rest
          (outcomes.map (.error fault :: ·), engine)
      | .ok receipt =>
        let (outcomes, engine) := deliverAll engine rest
        (outcomes.map (.ok receipt :: ·), engine)

/-- Answer a question about the registry. -/
def query (engine : Engine) (path : List String) : Except Fault String :=
  TokenLedger.query engine.setup.format (.ofStore engine.store.tokens) path

/-- The state of the ledger as a list of records. -/
def exportState (engine : Engine) : Except Fault GenesisState :=
  GenesisState.ofStore engine.setup.format engine.store

/-- The digest of the state. -/
def stateHash (engine : Engine) : Except Fault String :=
  engine.exportState.map GenesisState.hash

end Engine

end TokenLedger
