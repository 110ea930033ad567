/-
Building a ledger again. From a genesis state and the envelopes that were delivered, the same
settings always give the same engine. A snapshot takes the place of the genesis state and of the
envelopes up to its own place in the sequence.
-/

import TokenLedger.Failure
import TokenLedger.Snapshot.Basic

namespace TokenLedger

/-- A ledger that has been built again. -/
structure Rebuilt where
  engine : Engine
  outcomes : List Outcome
  /-- The digest of the state. -/
  hash : String

/-- Build a ledger from its genesis state and its envelopes; a fatal fault of any of them ends
it. -/
def Settings.rebuild (settings : Settings) (genesis : GenesisState) (envelopes : List Envelope) :
    Except Fault Rebuilt :=
  match settings.newEngine.initGenesis genesis with
  | (.error fault, _) => .error fault
  | (.ok (), engine) =>
    match engine.deliverAll envelopes with
    | (.error fault, _) => .error fault
    | (.ok outcomes, engine) => do return ⟨engine, outcomes, ← engine.stateHash⟩

/-- Build a ledger from a snapshot and the envelopes after it, unless any of them is not as it
should be. -/
def Settings.resume? (settings : Settings) (snapshot : Snapshot) (envelopes : List Envelope) :
    Option Engine := do
  let state ← snapshot.state.toOption
  match settings.newEngine.restore state snapshot.sequence snapshot.nonce with
  | (.error _, _) => none
  | (.ok (), engine) =>
    let later := envelopes.filter fun envelope => snapshot.sequence < envelope.sequence
    match engine.deliverAll later with
    | (.error _, _) => none
    | (.ok _, engine) => some engine

/-- The envelopes in a file that has been looked for, and holds an array of them. -/
def Envelope.loadFile (found : Option Node) : Except Failure (List Envelope) := do
  (streamOfText (← readText found)).mapError Failure.ledger

end TokenLedger
