/-
This file says what becomes of a session that is created where an earlier one has left something. A
log that cannot be read fails the creation when the genesis state is already there, so that no session
is created under this name any more. A log with frames is taken for the log of the new session, which
is then out of step with it for good. A snapshot of the start of the earlier session is opened in
place of the new one.
-/

import Mathlib
import TokenLedger.Proofs.Engine.Acceptance
import TokenLedger.Proofs.Session.Creation

namespace TokenLedger.Session

variable {settings : Settings} {name : String} {genesis : GenesisState} {session : Session}
  {disk started after : Disk} {failure : Failure}

/-! ### A log with frames -/

/-- Where the engine and the log do not stand at the same place, no envelope takes effect. -/
theorem apply_of_apart (apart : session.engine.lastSequence ≠ session.journal.lastSequence)
    (envelope : Envelope) (disk : Disk) :
    ∃ failure after, session.apply envelope disk = (.error failure, session, after) ∧
      after.tree.content? session.journal.path = disk.tree.content? session.journal.path := by
  have unlogged : ¬ ∃ journal between, session.Logs envelope disk journal between := by
    rintro ⟨journal, between, logs⟩
    obtain ⟨next, _⟩ := Engine.deliver_of_not_fatal logs.mild
    obtain ⟨_, _, number, _⟩ := Journal.of_append logs.appended
    have places : session.engine.lastSequence + 1 = session.journal.lastSequence + 1 :=
      next.symm.trans number
    exact apart (add_right_cancel places)
  obtain ⟨failure, after, run, _, content, _⟩ := apply_of_not_logs unlogged
  exact ⟨failure, after, run, content⟩

/-- A session that has been created over a log with frames takes no envelope at all. -/
theorem apply_of_leftover {left : List LoggedEnvelope}
    (created : create settings name genesis disk = (.ok session, started))
    (found : leftLog settings name disk.tree = .ok left) (frames : Journal.lastOf left ≠ 0) :
    session.engine.lastSequence = 0 ∧ session.journal.lastSequence = Journal.lastOf left ∧
      ∀ envelope disk, ∃ failure after,
        session.apply envelope disk = (.error failure, session, after) := by
  obtain ⟨home, tree, is, made, leads, _, rfl, rfl, rfl⟩ := created_of_create created
  have read := readAt_of_create created
  rw [← is.folder, found] at read
  have engine := (Settings.runs_of_initGenesis is.starts).2.1
  have journal := congrArg Journal.lastSequence (is.journal_eq read)
  refine ⟨engine, journal, fun envelope disk => ?_⟩
  have apart : session.engine.lastSequence ≠ session.journal.lastSequence := by
    rw [engine, journal]
    exact frames.symm
  obtain ⟨failure, after, run, _⟩ := apply_of_apart apart envelope disk
  exact ⟨failure, after, run⟩

theorem apply_of_leftover_oneFrame :
    ∃ session started,
      create {} "s" .empty (.ofTree (leftoverLog (Frame.writeAll [.ofEnvelope refused]))) =
        (.ok session, started) ∧
      session.engine.lastSequence = 0 ∧ session.journal.lastSequence = 1 ∧
      ∀ envelope disk, ∃ failure after,
        session.apply envelope disk = (.error failure, session, after) := by
  have observed : (create {} "s" .empty
      (.ofTree (leftoverLog (Frame.writeAll [.ofEnvelope refused])))).1.isOk = true := by
    decide +kernel
  have found : leftLog {} "s"
      (Disk.ofTree (leftoverLog (Frame.writeAll [.ofEnvelope refused]))).tree =
        .ok [.ofEnvelope refused] := by
    decide +kernel
  cases created : create {} "s" .empty
      (.ofTree (leftoverLog (Frame.writeAll [.ofEnvelope refused]))) with
  | mk result started =>
    rw [created] at observed
    cases result with
    | error failure => cases observed
    | ok session => exact ⟨session, started, rfl, apply_of_leftover created found (by decide)⟩

/-! ### A log that cannot be read -/

/-- There is a genesis state once one has been saved. -/
theorem isTaken_of_save
    (saved : genesis.save disk (genesisPath (folderPath settings name)) = (.ok (), after)) :
    isTaken settings name after.tree = true := by
  obtain ⟨home, tree, made, leads, spellable, noFolder, rfl⟩ := folder_of_save saved
  have still := leads.keep (FileTree.keepsFolders_put (utf8 genesis.canonicalText) noFolder)
  rw [isTaken, genesisPath, FileTree.exists?, FileTree.node?,
    still.place?_plain (by decide) (by decide) spellable, Option.bind_some,
    FileTree.at?_put_self _ (FileTree.ne_root_of_noFolder noFolder)]
  rfl

/-- A log that cannot be read fails the creation when the genesis state is there already, which
refuses every later one. -/
theorem create_of_unreadable (free : isTaken settings name disk.tree = false)
    (accepted : (settings.newEngine.initGenesis genesis).1 = .ok ())
    (saved : genesis.save disk (genesisPath (folderPath settings name)) = (.ok (), after))
    (unreadable : leftLog settings name disk.tree = .error failure) :
    create settings name genesis disk = (.error failure, after) ∧
      ∀ other later, later.tree = after.tree →
        create settings name other later = (.error (.sessionExists name), later) := by
  have taken := isTaken_of_save saved
  refine ⟨?_, fun other later same => if_pos (same ▸ taken)⟩
  rcases create_cases settings name genesis disk with
    ⟨taken, _⟩ | ⟨fault, refused, _⟩ | ⟨fault, between, unsaved, _⟩ | ⟨_, between, _, again, run⟩
  · cases free.symm.trans taken
  · cases accepted.symm.trans refused
  · cases saved.symm.trans unsaved
  · obtain rfl : after = between := congrArg Prod.snd (saved.symm.trans again)
    rw [run, unreadable]
    rfl

theorem create_of_unreadable_oneByte :
    ∃ failure after,
      create {} "s" .empty (.ofTree (leftoverLog [120])) = (.error failure, after) ∧
      ¬ (leftoverLog [120]).SameFiles after.tree ∧
      create {} "s" .empty after = (.error (.sessionExists "s"), after) := by
  let place : Place := ["ledger_data", "s", "genesis.json"]
  let content := utf8 GenesisState.empty.canonicalText
  have saved : GenesisState.empty.save (.ofTree (leftoverLog [120]))
      (genesisPath (folderPath {} "s")) = (.ok (), ⟨(leftoverLog [120]).put place content, []⟩) := by
    decide +kernel
  have unreadable : leftLog {} "s" (Disk.ofTree (leftoverLog [120])).tree =
      .error (.corrupt 0 (.shortLength 1)) := by
    decide +kernel
  obtain ⟨failed, refuses⟩ :=
    create_of_unreadable (by decide +kernel) (by decide +kernel) saved unreadable
  refine ⟨_, _, failed, fun same => ?_, refuses _ _ rfl⟩
  have before := (same place content).mp (FileTree.at?_put_self _ (by decide))
  have absent : (leftoverLog [120]).at? place = none := by
    decide +kernel
  rw [absent] at before
  cases before

/-! ### A snapshot of an earlier session -/

/-- A snapshot of the start of another genesis state is opened in its place. -/
theorem Created.reopen_of_other {home : Place} {other : GenesisState} {engine : Engine}
    {snapshot : Snapshot} (is : Created home session disk)
    (empty : Journal.readAt disk.tree (logPath session.folder) = .ok [])
    (accepted : session.settings.newEngine.initGenesis other = (.ok (), engine))
    (belongs : snapshot.Belongs session.settings other [])
    (usable : usableSnapshot? disk.tree session.folder [] = some snapshot) :
    Session.reopen session.settings session.name disk =
      (.ok { session with genesis := session.genesis.sorted, engine }, disk) := by
  obtain ⟨loaded, opens, logged⟩ := is.found empty
  have builds : session.settings.Builds other [] engine := ⟨engine, [], accepted, rfl⟩
  obtain ⟨outcomes, hash, _, run⟩ := builds.rebuild
  have resumed := Snapshot.resume?_of_belongs belongs (by decide) run
  rw [is.folder] at usable
  have place : engine.lastSequence = session.journal.lastSequence := by
    rw [builds.numbered.2, is.journal_eq empty]
    rfl
  rw [reopen_of_recover loaded opens logged (recover_of_resume? usable resumed) place, ← is.folder]

/-- Where a snapshot of the start of another genesis state can be used, a session is opened that
stands for that state. -/
theorem reopen_of_leftover {other : GenesisState} {snapshot : Snapshot}
    (created : create settings name genesis disk = (.ok session, started))
    (empty : leftLog settings name disk.tree = .ok [])
    (accepted : (settings.newEngine.initGenesis other).1 = .ok ())
    (belongs : snapshot.Belongs settings other [])
    (usable : usableSnapshot? started.tree (folderPath settings name) [] = some snapshot) :
    session.exportState = .ok genesis.withoutEmptyAccounts.sorted ∧
      ∃ opened, reopen settings name started = (.ok opened, started) ∧
        opened.exportState = .ok other.withoutEmptyAccounts.sorted := by
  have read := (readAt_of_create created).trans empty
  obtain ⟨home, tree, is, made, leads, _, rfl, rfl, rfl⟩ := created_of_create created
  rw [← is.folder] at read usable
  have starts := is.starts
  have engine : session.engine =
      (session.settings.newEngine.initGenesis session.genesis).2 := by rw [starts]
  refine ⟨?_, _, is.reopen_of_other read (Prod.ext accepted rfl) belongs usable, ?_⟩
  · rw [exportState, engine, Settings.newEngine,
      Engine.exportState_initGenesis_new (congrArg Prod.fst starts)]
    rfl
  · rw [exportState, Settings.newEngine, Engine.exportState_initGenesis_new accepted]
    rfl

/-- A tree with a snapshot that was left from the beginning. -/
def leftoverSnapshot (snapshot : Snapshot) : FileTree :=
  leftover ["snapshots", "snapshot_000000.json"] (utf8 snapshot.toJson.compact)

/-- The snapshot can be used for the session that is created. -/
theorem usableSnapshot?_leftover {snapshot : Snapshot} (start : snapshot.sequence = 0) :
    usableSnapshot? (create {} "s" .oneToken (.ofTree (leftoverSnapshot snapshot))).2.tree
      (folderPath {} "s") [] = some snapshot := by
  -- whatever the bytes are, so that no digest is evaluated
  have listed (bytes : Bytes) : Snapshot.list (create {} "s" .oneToken (.ofTree
      (leftover ["snapshots", "snapshot_000000.json"] bytes))).2.tree
      (snapshotFolder (folderPath {} "s")) = .ok [0] := rfl
  have held (bytes : Bytes) : (create {} "s" .oneToken (.ofTree
      (leftover ["snapshots", "snapshot_000000.json"] bytes))).2.tree.node?
      (Snapshot.place (snapshotFolder (folderPath {} "s")) 0) = some (.file bytes) := rfl
  exact usableSnapshot?_of_latest (Snapshot.latest_of_file (listed _) rfl (held _))
    (by rw [start]; decide)

theorem reopen_of_leftover_start :
    ∃ session started opened,
      create {} "s" .oneToken (.ofTree (leftoverSnapshot (.ofState 0 0 .empty))) =
        (.ok session, started) ∧
      session.exportState = .ok .oneToken ∧
      reopen {} "s" started = (.ok opened, started) ∧ opened.exportState = .ok .empty := by
  have observed : (create {} "s" .oneToken
      (.ofTree (leftoverSnapshot (.ofState 0 0 .empty)))).1.isOk = true := by
    decide +kernel
  have noLog : leftLog {} "s" (Disk.ofTree (leftoverSnapshot (.ofState 0 0 .empty))).tree =
      .ok [] := by
    decide +kernel
  have accepted : ((Settings.newEngine {}).initGenesis .empty).1 = .ok () := by
    decide
  have belongs : (Snapshot.ofState 0 0 .empty).Belongs {} .empty [] :=
    Snapshot.belongs_ofState ⟨_, [], Prod.ext accepted rfl, rfl⟩
      (Engine.exportState_initGenesis_new accepted)
  have usable := @usableSnapshot?_leftover (.ofState 0 0 .empty) rfl
  cases created : create {} "s" .oneToken (.ofTree (leftoverSnapshot (.ofState 0 0 .empty))) with
  | mk result started =>
    rw [created] at observed usable
    cases result with
    | error failure => cases observed
    | ok session =>
      obtain ⟨exported, opened, run, exportedThen⟩ :=
        reopen_of_leftover created noLog accepted belongs usable
      exact ⟨session, started, opened, rfl, exported, run, exportedThen⟩

/-- A log that cannot be read fails a creation that leaves its genesis state behind; the next one is
refused. A log with a frame is the log of the session that is created, which takes no envelope. A
snapshot from the beginning of an earlier session is opened in place of the session that has been
created. -/
theorem create_over_leftovers :
    (∃ failure after,
      create {} "s" .empty (.ofTree (leftoverLog [120])) = (.error failure, after) ∧
      ¬ (leftoverLog [120]).SameFiles after.tree ∧
      create {} "s" .empty after = (.error (.sessionExists "s"), after)) ∧
    (∃ session started,
      create {} "s" .empty (.ofTree (leftoverLog (Frame.writeAll [.ofEnvelope refused]))) =
        (.ok session, started) ∧
      session.engine.lastSequence = 0 ∧ session.journal.lastSequence = 1 ∧
      ∀ envelope disk, ∃ failure after,
        session.apply envelope disk = (.error failure, session, after)) ∧
    ∃ session started opened,
      create {} "s" .oneToken (.ofTree (leftoverSnapshot (.ofState 0 0 .empty))) =
        (.ok session, started) ∧
      session.exportState = .ok .oneToken ∧
      reopen {} "s" started = (.ok opened, started) ∧ opened.exportState = .ok .empty :=
  ⟨create_of_unreadable_oneByte, apply_of_leftover_oneFrame, reopen_of_leftover_start⟩

end TokenLedger.Session
