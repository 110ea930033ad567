/-
Sessions. A session is a ledger that is kept in a folder of its own: its genesis state, the log of
all envelopes that have used up a place in the sequence, and snapshots. An envelope takes effect
only after it has been logged. A session is opened again from its latest snapshot, or from its
genesis state where no snapshot can be used, and the envelopes in its log.
-/

import TokenLedger.Disk.StateFile
import TokenLedger.Journal.Basic
import TokenLedger.Session.Rebuild
import TokenLedger.Snapshot.Folder

namespace TokenLedger

/-- A ledger that is kept in a folder. -/
structure Session where
  name : String
  folder : Path
  settings : Settings
  genesis : GenesisState
  engine : Engine
  journal : Journal

namespace Session

/-! ### Places -/

/-- The path to the folder of a session. -/
def folderPath (settings : Settings) (name : String) : Path :=
  Path.join (Path.ofText settings.dataFolder) name

def genesisPath (folder : Path) : Path := folder ++ ["genesis.json"]

def logPath (folder : Path) : Path := folder ++ ["requests.log"]

def snapshotFolder (folder : Path) : Path := folder ++ ["snapshots"]

/-! ### Creating and opening -/

/-- Put the files of a session that has been started into its folder. -/
def settle (settings : Settings) (name : String) (genesis : GenesisState) (engine : Engine)
    (disk : Disk) : Except Failure Session × Disk :=
  let folder := folderPath settings name
  match genesis.save disk (genesisPath folder) with
  | (.error fault, disk) => (.error (.state fault), disk)
  | (.ok (), disk) =>
    let (journal, disk) := Journal.openAt disk (logPath folder)
    (journal.map fun journal => { name, folder, settings, genesis, engine, journal }, disk)

/-- Create a session with a genesis state. -/
def create (settings : Settings) (name : String) (genesis : GenesisState) (disk : Disk) :
    Except Failure Session × Disk :=
  if disk.tree.exists? (genesisPath (folderPath settings name)) then
    (.error (.sessionExists name), disk)
  else
    match settings.newEngine.initGenesis genesis with
    | (.error fault, _) => (.error (.ledger fault), disk)
    | (.ok (), engine) => settle settings name genesis engine disk

/-- The envelopes of a log. -/
def loggedEnvelopes (journal : Journal) (tree : FileTree) : Except Failure (List Envelope) := do
  (← journal.load tree).mapM fun logged => logged.toEnvelope.mapError Failure.ledger

/-- The latest snapshot, if it is of a place that the envelopes reach. -/
def usableSnapshot? (tree : FileTree) (folder : Path) (envelopes : List Envelope) :
    Option Snapshot := do
  let snapshot ← (← (Snapshot.latest tree (snapshotFolder folder)).toOption)
  let lastLogged := (envelopes.getLast?.map Envelope.sequence).getD 0
  if snapshot.sequence ≤ lastLogged then some snapshot else none

/-- The engine that the files of a session stand for. -/
def recover (settings : Settings) (tree : FileTree) (folder : Path) (genesis : GenesisState)
    (envelopes : List Envelope) : Except Failure Engine :=
  let resumed := do settings.resume? (← usableSnapshot? tree folder envelopes) envelopes
  match resumed with
  | some engine => .ok engine
  | none =>
    ((settings.rebuild genesis envelopes).map Rebuilt.engine).mapError Failure.ledger

/-- The session that an open log belongs to. -/
def ofJournal (settings : Settings) (name : String) (genesis : GenesisState) (tree : FileTree)
    (journal : Journal) : Except Failure Session := do
  let folder := folderPath settings name
  let envelopes ← loggedEnvelopes journal tree
  let engine ← recover settings tree folder genesis envelopes
  if engine.lastSequence ≠ journal.lastSequence then
    .error (.logOrder journal.lastSequence engine.lastSequence)
  else return { name, folder, settings, genesis, engine, journal }

/-- Open a session again. -/
def reopen (settings : Settings) (name : String) (disk : Disk) : Except Failure Session × Disk :=
  let folder := folderPath settings name
  match GenesisState.loadFile (disk.tree.node? (genesisPath folder)) with
  | .error fault => (.error (.state fault), disk)
  | .ok genesis =>
    match Journal.openAt disk (logPath folder) with
    | (.error failure, disk) => (.error failure, disk)
    | (.ok journal, disk) => (ofJournal settings name genesis disk.tree journal, disk)

/-! ### Snapshots -/

/-- Take a snapshot at the present place in the sequence. -/
def takeSnapshot (session : Session) (disk : Disk) : Except Failure Path × Disk :=
  match session.engine.exportState with
  | .error fault => (.error (.ledger fault), disk)
  | .ok state =>
    let engine := session.engine
    (Snapshot.ofState engine.lastSequence engine.generator.nonce state).save disk
      (snapshotFolder session.folder)

/-- Whether a snapshot is due at a place in the sequence. -/
def snapshotDue (settings : Settings) (sequence : UInt64) : Bool :=
  settings.snapshotInterval ≠ 0 && sequence % settings.snapshotInterval == 0

/-! ### Envelopes -/

/-- Log an envelope before its outcome takes effect. -/
def persist (envelope : Envelope) (_outcome : Outcome) :
    StateM (Journal × Disk) (Except Failure Unit) := fun (journal, disk) =>
  journal.append disk (.ofEnvelope envelope)

/-- Deliver an envelope and log it. A fault that is fatal is a failure, and so is a snapshot that is
due and cannot be taken, although the envelope has then taken effect. -/
def apply (session : Session) (envelope : Envelope) (disk : Disk) :
    Except Failure Outcome × Session × Disk :=
  let ((delivered, engine), journal, disk) :=
    (session.engine.deliverThen envelope (persist envelope)).run (session.journal, disk)
  let session := { session with engine, journal }
  match delivered with
  | .error failure => (.error failure, session, disk)
  | .ok outcome =>
    match outcome with
    | .error fault =>
      if fault.isFatal then (.error (.ledger fault), session, disk)
      else afterwards session outcome disk
    | .ok _ => afterwards session outcome disk
where
  /-- Take the snapshot that is due. -/
  afterwards (session : Session) (outcome : Outcome) (disk : Disk) :
      Except Failure Outcome × Session × Disk :=
    if snapshotDue session.settings envelope.sequence then
      let (saved, disk) := session.takeSnapshot disk
      (saved.map fun _ => outcome, session, disk)
    else (.ok outcome, session, disk)

/-- Deliver a request at the next place in the sequence. -/
def submit (session : Session) (request : Request) (disk : Disk) :
    Except Failure Outcome × Session × Disk :=
  session.apply ⟨session.engine.lastSequence + 1, schemaVersion, request⟩ disk

/-! ### Looking at a session -/

/-- Build the engine again from the genesis state and the log; the digest of its state. -/
def replay (session : Session) (tree : FileTree) : Except Failure String × Session :=
  let rebuilt : Except Failure Rebuilt := do
    let envelopes ← loggedEnvelopes session.journal tree
    (session.settings.rebuild session.genesis envelopes).mapError Failure.ledger
  match rebuilt with
  | .error failure => (.error failure, session)
  | .ok rebuilt => (.ok rebuilt.hash, { session with engine := rebuilt.engine })

/-- Answer a question about the registry. -/
def query (session : Session) (path : List String) : Except Failure String :=
  (session.engine.query path).mapError Failure.ledger

/-- The state of the ledger. -/
def exportState (session : Session) : Except Failure GenesisState :=
  session.engine.exportState.mapError Failure.ledger

/-- The digest of the state. -/
def stateHash (session : Session) : Except Failure String :=
  session.engine.stateHash.mapError Failure.ledger

end Session

end TokenLedger
