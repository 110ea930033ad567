/-
This file proves what a session is opened with, whatever its folder of snapshots holds. As long as
its genesis state and its log can be read and build a ledger, the session opens, and stands at the
last place of the log. Its ledger is the one that they build, unless there is a snapshot that is
believed and does not belong to them: a snapshot is believed for its version and its digest, which
covers its state alone, and nothing else ties it to the log.
-/

import Mathlib
import TokenLedger.Proofs.Journal.Appending
import TokenLedger.Proofs.Session.Rebuilding
import TokenLedger.Session.Basic

namespace TokenLedger

variable {settings : Settings} {genesis : GenesisState} {engine : Engine} {snapshot : Snapshot}
  {envelopes : List Envelope} {rebuilt : Rebuilt} {journal : Journal} {disk opened : Disk}
  {tree : FileTree} {path : Path} {name : String}

/-! ### The last place -/

theorem Engine.lastSequence_of_restore {state : GenesisState} {sequence nonce : UInt64}
    {before : Engine} (restored : before.restore state sequence nonce = (.ok (), engine)) :
    engine.lastSequence = sequence := by
  rw [restore] at restored
  cases loaded : before.initGenesis state with
  | mk accepted after =>
    rw [loaded] at restored
    cases accepted with
    | error fault => cases restored
    | ok _ =>
      obtain ⟨_, rfl⟩ := Prod.mk.inj restored
      rfl

theorem Settings.resume?_eq_some (resumed : settings.resume? snapshot envelopes = some engine) :
    ∃ state start outcomes, snapshot.state = .ok state ∧
      settings.newEngine.restore state snapshot.sequence snapshot.nonce = (.ok (), start) ∧
      start.deliverAll (envelopes.filter fun envelope => snapshot.sequence < envelope.sequence) =
        (.ok outcomes, engine) := by
  rw [Settings.resume?] at resumed
  obtain ⟨state, believed, resumed⟩ := Option.bind_eq_some_iff.mp resumed
  have believed : snapshot.state = .ok state := toOption_eq_some believed
  cases restored : settings.newEngine.restore state snapshot.sequence snapshot.nonce with
  | mk accepted start =>
    rw [restored] at resumed
    cases accepted with
    | error fault => cases resumed
    | ok _ =>
      dsimp only at resumed
      cases run : start.deliverAll
        (envelopes.filter fun envelope => snapshot.sequence < envelope.sequence) with
      | mk result last =>
        rw [run] at resumed
        cases result with
        | error fault => cases resumed
        | ok outcomes =>
          obtain rfl := Option.some.inj resumed
          exact ⟨state, start, outcomes, believed, restored, run⟩

/-- Going on from a snapshot of a place that the envelopes reach ends at the last of them. -/
theorem Settings.lastSequence_of_resume? (numbered : Numbered Envelope.sequence 0 envelopes)
    (enough : envelopes.length < UInt64.size)
    (within : snapshot.sequence ≤ Snapshot.lastLogged envelopes)
    (resumed : settings.resume? snapshot envelopes = some engine) :
    engine.lastSequence = Snapshot.lastLogged envelopes := by
  obtain ⟨state, start, outcomes, _, restored, run⟩ := resume?_eq_some resumed
  have place : start.lastSequence = snapshot.sequence := Engine.lastSequence_of_restore restored
  obtain ⟨_, last, _⟩ := Engine.deliverAll_eq_ok run
  rw [last, place]
  rcases UInt64.lt_or_eq_of_le within with before | same
  · rcases List.eq_nil_or_concat envelopes with rfl | ⟨init, envelope, rfl⟩
    · exact absurd (UInt64.lt_iff_toNat_lt.mp before) (Nat.not_lt_zero _)
    · rw [List.concat_eq_append] at before ⊢
      rw [Snapshot.lastLogged, List.getLast?_concat] at before ⊢
      have later : snapshot.sequence < envelope.sequence := before
      rw [List.filter_append, List.filter_singleton, decide_eq_true later]
      simp
  · have none : envelopes.filter (fun envelope => snapshot.sequence < envelope.sequence) = [] := by
      have count := numbered.last
      have bounds := numbered.bounds (by rw [UInt64.toNat_zero]; omega)
      refine List.filter_eq_nil_iff.mpr fun envelope member => ?_
      have bound := (bounds envelope member).2
      have total : snapshot.sequence.toNat = envelopes.length := by
        rw [same, Snapshot.lastLogged, count, UInt64.zero_add]
        exact UInt64.toNat_ofNat_of_lt' enough
      rw [UInt64.toNat_zero] at bound
      rw [decide_eq_true_eq, UInt64.lt_iff_toNat_lt]
      omega
    rw [none, same]
    rfl

/-- The envelopes of a log have the numbers of its frames. -/
theorem Journal.sequence_of_loggedEnvelopes
    (logged : Session.loggedEnvelopes journal tree = .ok envelopes) :
    ∃ found, journal.load tree = .ok found ∧
      found.map LoggedEnvelope.sequence = envelopes.map Envelope.sequence := by
  obtain ⟨found, loaded, converted⟩ := bind_eq_ok logged
  refine ⟨found, loaded, ?_⟩
  clear loaded logged
  induction found generalizing envelopes with
  | nil =>
    obtain rfl := Except.ok.inj converted
    rfl
  | cons first rest inductionHypothesis =>
    rw [List.mapM_cons] at converted
    obtain ⟨envelope, known, converted⟩ := bind_eq_ok converted
    obtain ⟨others, following, built⟩ := bind_eq_ok converted
    obtain rfl := Except.ok.inj built
    rw [List.map_cons, List.map_cons, inductionHypothesis following]
    rw [mapError_eq_ok_iff, LoggedEnvelope.toEnvelope] at known
    split at known
    next =>
      obtain rfl := Except.ok.inj known
      rfl
    next => cases known

/-- An open log knows the place of the last of its envelopes. -/
theorem Journal.lastSequence_of_openAt (opening : openAt disk path = (.ok journal, opened))
    (logged : Session.loggedEnvelopes journal opened.tree = .ok envelopes) :
    journal.lastSequence = Snapshot.lastLogged envelopes := by
  obtain ⟨found, loaded, same⟩ := sequence_of_loggedEnvelopes logged
  obtain ⟨_, read⟩ := folder_of_openAt opening
  obtain ⟨again, readAgain, rfl⟩ := map_eq_ok read
  obtain rfl : again = found := Except.ok.inj (readAgain.symm.trans loaded)
  have lasts := congrArg List.getLast? same
  rw [List.getLast?_map, List.getLast?_map] at lasts
  rw [lastOf, Snapshot.lastLogged, lasts]

/-- A genesis state that has been accepted is loaded from its file with its records in order. -/
theorem GenesisState.loadFile_canonicalText
    (accepted : (settings.newEngine.initGenesis genesis).1 = .ok ()) :
    GenesisState.loadFile (some (.file (utf8 genesis.canonicalText))) = .ok genesis.sorted := by
  obtain ⟨valid, names⟩ := Engine.of_initGenesis_new accepted
  rw [GenesisState.loadFile]
  simp only [Option.bind_some, Node.content?, utf8?_utf8,
    GenesisState.restoreText_canonicalText valid names]

/-! ### What is opened -/

namespace Session

theorem usableSnapshot?_eq_some
    (usable : usableSnapshot? tree path envelopes = some snapshot) :
    Snapshot.latest tree (snapshotFolder path) = .ok (some snapshot) ∧
      snapshot.sequence ≤ Snapshot.lastLogged envelopes := by
  obtain ⟨latest, found, rest⟩ := Option.bind_eq_some_iff.mp usable
  obtain ⟨last, rfl, chosen⟩ := Option.bind_eq_some_iff.mp rest
  dsimp only at chosen
  split at chosen
  next within =>
    obtain rfl := Option.some.inj chosen
    exact ⟨toOption_eq_some found, within⟩
  next => cases chosen

theorem usableSnapshot?_of_latest
    (latest : Snapshot.latest tree (snapshotFolder path) = .ok (some snapshot))
    (within : snapshot.sequence ≤ Snapshot.lastLogged envelopes) :
    usableSnapshot? tree path envelopes = some snapshot := by
  rw [usableSnapshot?, latest]
  exact if_pos within

/-- The snapshot is taken for the start of the log: it is the latest and of a place that the log
reaches, its text has its digest and holds a state that can be restored, and the envelopes after its
place can be delivered from there. -/
structure Believes (settings : Settings) (tree : FileTree) (folder : Path)
    (envelopes : List Envelope) (snapshot : Snapshot) : Prop where
  usable : usableSnapshot? tree folder envelopes = some snapshot
  resumes : (settings.resume? snapshot envelopes).isSome

theorem recover_of_resume? (usable : usableSnapshot? tree path envelopes = some snapshot)
    (resumed : settings.resume? snapshot envelopes = some engine) :
    recover settings tree path genesis envelopes = .ok engine := by
  unfold recover
  rw [usable, Option.bind_eq_bind, Option.bind_some, resumed]

/-- The engine that a folder stands for is built from the genesis state and the log, or from a
snapshot that is believed. -/
theorem recover_cases (run : settings.rebuild genesis envelopes = .ok rebuilt) :
    recover settings tree path genesis envelopes = .ok rebuilt.engine ∨
      ∃ snapshot engine, Believes settings tree path envelopes snapshot ∧
        settings.resume? snapshot envelopes = some engine ∧
        recover settings tree path genesis envelopes = .ok engine := by
  have fallback : ((settings.rebuild genesis envelopes).map Rebuilt.engine).mapError
      Failure.ledger = .ok rebuilt.engine := by
    rw [run]
    rfl
  cases usable : usableSnapshot? tree path envelopes with
  | none =>
    left
    unfold recover
    rw [fallback, usable]
    rfl
  | some snapshot =>
    cases resumed : settings.resume? snapshot envelopes with
    | none =>
      left
      unfold recover
      rw [fallback, usable, Option.bind_eq_bind, Option.bind_some, resumed]
    | some engine =>
      exact .inr ⟨snapshot, engine, ⟨usable, Option.isSome_iff_exists.mpr ⟨engine, resumed⟩⟩,
        resumed, recover_of_resume? usable resumed⟩

/-- Where every snapshot that is believed belongs to the log, the engine is the one that is built
from the genesis state and the log. -/
theorem recover_of_belong (enough : envelopes.length < UInt64.size)
    (run : settings.rebuild genesis envelopes = .ok rebuilt)
    (belong : ∀ snapshot, Believes settings tree path envelopes snapshot →
      snapshot.Belongs settings genesis envelopes) :
    recover settings tree path genesis envelopes = .ok rebuilt.engine := by
  have possible : recover settings tree path genesis envelopes = .ok rebuilt.engine ∨ _ :=
    recover_cases run
  rcases possible with recovered | ⟨snapshot, engine, believed, resumed, recovered⟩
  · exact recovered
  · have right := Snapshot.resume?_of_belongs (belong snapshot believed) enough run
    rw [recovered, Option.some.inj (resumed.symm.trans right)]

/-- A session opens once an engine has been recovered that stands at the last place of the log. -/
theorem reopen_of_recover
    (kept : GenesisState.loadFile (disk.tree.node? (genesisPath (folderPath settings name))) =
      .ok genesis)
    (opening : Journal.openAt disk (logPath (folderPath settings name)) = (.ok journal, opened))
    (logged : loggedEnvelopes journal opened.tree = .ok envelopes)
    (recovered : recover settings opened.tree (folderPath settings name) genesis envelopes =
      .ok engine)
    (agrees : engine.lastSequence = journal.lastSequence) :
    reopen settings name disk =
      (.ok ⟨name, folderPath settings name, settings, genesis, engine, journal⟩, opened) := by
  have found : ofJournal settings name genesis opened.tree journal =
      .ok ⟨name, folderPath settings name, settings, genesis, engine, journal⟩ := by
    rw [ofJournal, logged]
    simp only [bind, Except.bind, recovered]
    rw [if_neg (not_not.mpr agrees)]
    rfl
  unfold reopen
  dsimp only
  rw [kept]
  dsimp only
  rw [opening]
  dsimp only
  rw [found]

/-- Whatever the folder of snapshots holds, a session opens whose genesis state and log can be read
and build a ledger, and stands at the last place of the log. Its engine is the one that they build,
unless a snapshot is believed that is not of this genesis state and this log. The log has fewer
envelopes than there are numbers for them, as whatever fits into memory does. -/
theorem reopen_of_rebuild
    (kept : GenesisState.loadFile (disk.tree.node? (genesisPath (folderPath settings name))) =
      .ok genesis)
    (opening : Journal.openAt disk (logPath (folderPath settings name)) = (.ok journal, opened))
    (logged : loggedEnvelopes journal opened.tree = .ok envelopes)
    (enough : envelopes.length < UInt64.size)
    (run : settings.rebuild genesis envelopes = .ok rebuilt) :
    ∃ session, reopen settings name disk = (.ok session, opened) ∧
      session.engine.lastSequence = rebuilt.engine.lastSequence ∧
      ((∀ snapshot,
          Believes settings opened.tree (folderPath settings name) envelopes snapshot →
          snapshot.Belongs settings genesis envelopes) →
        session.engine = rebuilt.engine) := by
  obtain ⟨numbered, place⟩ := (Settings.builds_of_rebuild run).numbered
  have last : Snapshot.lastLogged envelopes = rebuilt.engine.lastSequence := by
    rw [Snapshot.lastLogged, numbered.last, UInt64.zero_add, place]
  have journalLast : journal.lastSequence = rebuilt.engine.lastSequence := by
    rw [← last, Journal.lastSequence_of_openAt opening logged]
  obtain ⟨engine, recovered, same⟩ : ∃ engine, recover settings opened.tree
      (folderPath settings name) genesis envelopes = .ok engine ∧
      engine.lastSequence = rebuilt.engine.lastSequence := by
    rcases recover_cases run with recovered | ⟨snapshot, engine, believed, resumed, recovered⟩
    · exact ⟨_, recovered, rfl⟩
    · have within := (usableSnapshot?_eq_some believed.usable).2
      exact ⟨engine, recovered,
        (settings.lastSequence_of_resume? numbered enough within resumed).trans last⟩
  refine ⟨_, reopen_of_recover kept opening logged recovered (same.trans journalLast.symm), same,
    fun belong => ?_⟩
  exact Except.ok.inj (recovered.symm.trans (recover_of_belong enough run belong))

/-- The path of the folder of a session. -/
def oneFolder : Path := folderPath {} "s"

/-- Orders for the one token. The last of them is refused. -/
def threeOrders : List Envelope :=
  [.freezeOneToken, ⟨2, schemaVersion, .order .mint ⟨"5", "GLD-1A2", "alice"⟩⟩,
    ⟨3, schemaVersion, .order .burn ⟨"1000", "GLD-1A2", "alice"⟩⟩]

/-- The state after the first of them. -/
def stateAfterOne : GenesisState :=
  ⟨GenesisState.oneToken.tokens,
    [⟨"alice", Coins.single "GLD-1A2" 50, Coins.single "GLD-1A2" 50⟩]⟩

/-- The snapshot of this state. -/
def snapshotAfterOne : Snapshot := .ofState 1 0 stateAfterOne

/-- A disk with a session that starts from the one token, has logged the orders, and has taken a
snapshot after the first of them. -/
def savedMidway : Disk :=
  .ofTree (.ofList [
    (["ledger_data"], .folder),
    (["ledger_data", "s"], .folder),
    (["ledger_data", "s", "genesis.json"], .file (utf8 GenesisState.oneToken.canonicalText)),
    (["ledger_data", "s", "requests.log"], .file (Frame.writeAll (threeOrders.map .ofEnvelope))),
    (["ledger_data", "s", "snapshots"], .folder),
    (["ledger_data", "s", "snapshots", "snapshot_000001.json"],
      .file (utf8 snapshotAfterOne.toJson.compact))])

theorem openAt_oneFolder
    (leads : disk.tree.follow? [] oneFolder.trimmed = some ["ledger_data", "s"])
    (folder : disk.tree.holdsFolder ["ledger_data", "s"] = true)
    {last : UInt64}
    (read : (Journal.readAt disk.tree (logPath oneFolder)).map Journal.lastOf = .ok last) :
    Journal.openAt disk (logPath oneFolder) = (.ok ⟨logPath oneFolder, last⟩, disk) := by
  have made : disk.tree.makeFolders (Path.parent (logPath oneFolder)) = (true, disk.tree) :=
    FileTree.makeFolders_of_follow? (by decide) leads folder
  obtain ⟨envelopes, read, isLast⟩ := map_eq_ok read
  rw [Journal.openAt_of_folder made, read, Except.map, isLast]

theorem usableSnapshot?_oneFolder
    (listed : Snapshot.list tree (snapshotFolder oneFolder) = .ok [1])
    (held : tree.node? (Snapshot.place (snapshotFolder oneFolder) 1) =
      some (.file (utf8 snapshot.toJson.compact)))
    (within : snapshot.sequence ≤ Snapshot.lastLogged envelopes) :
    usableSnapshot? tree oneFolder envelopes = some snapshot :=
  usableSnapshot?_of_latest (Snapshot.latest_of_file listed rfl held) within

theorem reopen_of_rebuild_savedMidway :
    GenesisState.loadFile (savedMidway.tree.node? (genesisPath oneFolder)) =
        .ok GenesisState.oneToken ∧
      Journal.openAt savedMidway (logPath oneFolder) =
        (.ok ⟨logPath oneFolder, 3⟩, savedMidway) ∧
      loggedEnvelopes ⟨logPath oneFolder, 3⟩ savedMidway.tree = .ok threeOrders ∧
      usableSnapshot? savedMidway.tree oneFolder threeOrders = some snapshotAfterOne ∧
      ∃ rebuilt, Settings.rebuild {} .oneToken threeOrders = .ok rebuilt ∧
        ∃ session, reopen {} "s" savedMidway = (.ok session, savedMidway) ∧
          session.engine = rebuilt.engine ∧
          session.engine.exportState.map (fun state => state.tokens.map Token.supply) =
            .ok [105] := by
  have accepted : ((Settings.newEngine {}).initGenesis .oneToken).1 = .ok () := by decide +kernel
  have kept : GenesisState.loadFile (savedMidway.tree.node? (genesisPath oneFolder)) =
      .ok GenesisState.oneToken := by
    have held : savedMidway.tree.node? (genesisPath oneFolder) =
        some (.file (utf8 GenesisState.oneToken.canonicalText)) := rfl
    have sorted : GenesisState.oneToken.sorted = GenesisState.oneToken := by decide
    rw [held, GenesisState.loadFile_canonicalText accepted, sorted]
  have opening : Journal.openAt savedMidway (logPath oneFolder) =
      (.ok ⟨logPath oneFolder, 3⟩, savedMidway) :=
    openAt_oneFolder (by decide +kernel) (by decide +kernel) (by decide +kernel)
  have logged : loggedEnvelopes ⟨logPath oneFolder, 3⟩ savedMidway.tree = .ok threeOrders := by
    decide +kernel
  have found : usableSnapshot? savedMidway.tree oneFolder threeOrders = some snapshotAfterOne :=
    usableSnapshot?_oneFolder (by decide +kernel) rfl (by decide)
  have midway : (Settings.rebuild {} .oneToken [.freezeOneToken]).map (fun rebuilt =>
      (rebuilt.engine.exportState, rebuilt.engine.lastSequence, rebuilt.engine.generator.nonce)) =
        .ok (.ok stateAfterOne, 1, 0) := by
    decide +kernel
  have last : (Settings.rebuild {} .oneToken threeOrders).map (fun rebuilt =>
      rebuilt.engine.exportState.map fun state => state.tokens.map Token.supply) =
        .ok (.ok [105]) := by
    decide +kernel
  obtain ⟨part, partRun, same⟩ := map_eq_ok midway
  obtain ⟨exported, same⟩ := Prod.mk.inj same
  obtain ⟨place, proposals⟩ := Prod.mk.inj same
  obtain ⟨rebuilt, run, supply⟩ := map_eq_ok last
  have belongs : snapshotAfterOne.Belongs {} .oneToken threeOrders :=
    ⟨[.freezeOneToken], _, part, stateAfterOne, rfl, partRun, exported,
      Snapshot.state_ofState 1 0 stateAfterOne, place.symm, proposals.symm⟩
  obtain ⟨session, opens, _, agrees⟩ := reopen_of_rebuild kept opening logged (by decide) run
  have agreed : session.engine = rebuilt.engine := agrees fun snapshot believed =>
    Option.some.inj (found.symm.trans believed.usable) ▸ belongs
  exact ⟨kept, opening, logged, found, rebuilt, run, session, opens, agreed, agreed ▸ supply⟩

/-- A disk with a session that has been created with no records and has refused to freeze a coin,
and with a snapshot in its folder. -/
def oneRefusal (snapshot : Snapshot) : Disk :=
  match create {} "s" .empty (.ofTree .empty) with
  | (.error _, disk) => disk
  | (.ok session, disk) =>
    let (_, session, disk) := session.submit (.order .freeze ⟨"1", "GLD-1A2", "o"⟩) disk
    (snapshot.save disk (snapshotFolder session.folder)).2

/-- The envelope that has been refused. -/
def refused : Envelope := ⟨1, schemaVersion, .order .freeze ⟨"1", "GLD-1A2", "o"⟩⟩

/-- The snapshot of the ledger after it. -/
def snapshotAfter : Snapshot := .ofState 1 0 .empty

/-- The same snapshot with another number of proposals. -/
def altered : Snapshot := { snapshotAfter with nonce := 7 }

/-- The digest of a snapshot does not cover its number of proposals: one that was altered there is
believed, and the session does not go on as the ledger of its log does. -/
theorem reopen_altered :
    GenesisState.loadFile ((oneRefusal altered).tree.node? (genesisPath oneFolder)) =
        .ok .empty ∧
      Journal.openAt (oneRefusal altered) (logPath oneFolder) =
        (.ok ⟨logPath oneFolder, 1⟩, oneRefusal altered) ∧
      loggedEnvelopes ⟨logPath oneFolder, 1⟩ (oneRefusal altered).tree = .ok [refused] ∧
      (Settings.rebuild {} .empty [refused]).map (·.engine.generator.nonce) = .ok 0 ∧
      (reopen {} "s" (oneRefusal altered)).1.map (·.engine.generator.nonce) = .ok 7 := by
  have kept : GenesisState.loadFile ((oneRefusal altered).tree.node? (genesisPath oneFolder)) =
      .ok .empty := by
    decide +kernel
  have opening : Journal.openAt (oneRefusal altered) (logPath oneFolder) =
      (.ok ⟨logPath oneFolder, 1⟩, oneRefusal altered) :=
    openAt_oneFolder (by decide +kernel) (by decide +kernel) (by decide +kernel)
  have logged : loggedEnvelopes ⟨logPath oneFolder, 1⟩ (oneRefusal altered).tree =
      .ok [refused] := by
    decide +kernel
  have found : usableSnapshot? (oneRefusal altered).tree oneFolder [refused] = some altered :=
    usableSnapshot?_oneFolder (by decide +kernel) (by decide +kernel) (by decide)
  have resumes : (Settings.resume? {} altered [refused]).map
      (fun engine => (engine.lastSequence, engine.generator.nonce)) = some (1, 7) := by
    decide +kernel
  obtain ⟨engine, resumed, stands⟩ := Option.map_eq_some_iff.mp resumes
  obtain ⟨place, proposals⟩ := Prod.mk.inj stands
  refine ⟨kept, opening, logged, by decide +kernel, ?_⟩
  rw [reopen_of_recover kept opening logged (recover_of_resume? found resumed) place, Except.map,
    proposals]

end Session

end TokenLedger
