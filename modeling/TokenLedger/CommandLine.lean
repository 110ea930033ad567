/-
The command line. It builds a ledger from a file of requests, and perhaps a file with the genesis
state and one with settings, and reports what each request came to and the digest of the state.
-/

import TokenLedger.Session.Rebuild
import TokenLedger.Settings.File
import TokenLedger.Disk.StateFile

namespace TokenLedger

namespace CommandLine

/-- The file with settings that is used where none is named. -/
def standardSettings : String := "ledger.toml"

/-- What a run comes to. -/
structure Report where
  /-- The exit status. -/
  status : UInt32
  /-- The lines that are written. -/
  lines : List String
  /-- What is said about a run that has failed. -/
  complaint : Option String
  deriving DecidableEq, Repr

namespace Report

/-- The report of a run that cannot be started. -/
def misuse : Report :=
  ⟨2, [], some "usage: asset-ledger-replay <requests.json> [genesis.json] [config.toml]"⟩

/-- The report of a run that has failed after some lines. -/
def failed (lines : List String) (failure : Failure) : Report :=
  ⟨1, lines, some ("error: " ++ failure.message)⟩

/-- All that is written. -/
def output (report : Report) : String :=
  String.join (report.lines.map (· ++ "\n"))

end Report

/-- A text with blanks after it, up to a width. -/
def padded (width : Nat) (text : String) : String :=
  text ++ String.ofList (List.replicate (width - text.length) ' ')

/-- The line of a request and what it came to. -/
def outcomeLine (envelope : Envelope) (outcome : Outcome) : String :=
  let request :=
    "  #" ++ padded 4 envelope.sequence.toNat.repr ++ " " ++
      padded 14 envelope.request.action ++ " "
  match outcome with
  | .ok receipt => request ++ padded 6 "ok" ++ " " ++ receipt.symbol
  | .error fault => request ++ padded 6 fault.code.repr ++ " " ++ fault.message

/-- The lines about the ledger as a whole. Building it a second time gives the same digest, since it
depends on nothing but the files; the last line says so. -/
def summary (rebuilt : Rebuilt) (state : GenesisState) : List String :=
  [ "tokens:   " ++ state.tokens.length.repr,
    "sequence: " ++ rebuilt.engine.lastSequence.toNat.repr,
    "hash:     " ++ rebuilt.hash,
    "determinism: OK" ]

/-- The genesis state in a named file, empty where none is named. -/
def genesisFrom (find : String → Option Node) : Option String → Except StateFault GenesisState
  | some name => GenesisState.loadFile (find name)
  | none => .ok .empty

/-- What is read before anything is written. -/
structure Inputs where
  settings : Settings
  genesis : GenesisState
  envelopes : List Envelope

/-- Read the files. -/
def readInputs (find : String → Option Node) (requests : String)
    (genesis settings : Option String) : Except Failure Inputs := do
  let settingsName := settings.getD standardSettings
  return {
    settings := ← Settings.load settingsName (find settingsName)
    genesis := ← (genesisFrom find genesis).mapError Failure.state
    envelopes := ← Envelope.loadFile (find requests) }

/-- Build the ledger and report on it. -/
def reportOn (requests : String) (inputs : Inputs) : Report :=
  let loaded := "Loaded " ++ inputs.envelopes.length.repr ++ " requests from " ++ requests
  match inputs.settings.rebuild inputs.genesis inputs.envelopes with
  | .error fault => .failed [loaded] (.ledger fault)
  | .ok rebuilt =>
    let lines := loaded :: List.zipWith outcomeLine inputs.envelopes rebuilt.outcomes
    match rebuilt.engine.exportState with
    | .error fault => .failed lines (.ledger fault)
    | .ok state => ⟨0, lines ++ summary rebuilt state, none⟩

/-- Run with what is found under the names of a file of requests, and perhaps one with the genesis
state, and one with settings. -/
def run (find : String → Option Node) (requests : String) (genesis settings : Option String) :
    Report :=
  match readInputs find requests genesis settings with
  | .error failure => .failed [] failure
  | .ok inputs => reportOn requests inputs

/-- Run with arguments, of which there are one to three. -/
def runArguments (find : String → Option Node) : List String → Report
  | [requests] => run find requests none none
  | [requests, genesis] => run find requests (some genesis) none
  | [requests, genesis, settings] => run find requests (some genesis) (some settings)
  | _ => .misuse

/-- The files that a run with these arguments looks at. -/
def filesOf : List String → List String
  | [requests, genesis, settings] => [settings, genesis, requests]
  | arguments => standardSettings :: arguments

end CommandLine

end TokenLedger
