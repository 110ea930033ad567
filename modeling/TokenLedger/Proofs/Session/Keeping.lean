/-
This file proves that the folder of a session stands for the session, whatever the session is asked
to do. Its file holds a genesis state from which the same ledger starts, its log holds the envelopes
that have used up a place in the sequence, and every snapshot belongs to them. Each call leaves the
folder so, whether or not an envelope could be logged or a snapshot could be saved; what is opened
from such a folder is the session itself.
-/

import Mathlib
import TokenLedger.Proofs.Session.Recovery

namespace TokenLedger.Session

variable {origin : GenesisState} {home : Place} {envelopes : List Envelope} {session : Session}
  {disk after : Disk} {envelope : Envelope}

/-! ### What delivering comes to -/

/-- Delivering to a caller who logs envelopes. -/
theorem run_deliverThen_persist (engine : Engine) (envelope : Envelope) (journal : Journal)
    (disk : Disk) :
    (engine.deliverThen envelope (persist envelope)).run (journal, disk) =
      if Outcome.isFatal (engine.deliver envelope).1 then
        ((.ok (engine.deliver envelope).1, engine), (journal, disk))
      else
        match journal.append disk (.ofEnvelope envelope) with
        | (.error failure, rest) => ((.error failure, engine), rest)
        | (.ok (), rest) =>
          ((.ok (engine.deliver envelope).1, (engine.deliver envelope).2), rest) := by
  have asked : (persist envelope (engine.deliver envelope).1).run (journal, disk) =
      (pure (journal.append disk (.ofEnvelope envelope)) : Id _) := rfl
  rw [Engine.deliverThen_of_deliver]
  split
  next => rfl
  next =>
    rw [StateT.run_bind, asked, pure_bind]
    cases journal.append disk (.ofEnvelope envelope) with
    | mk answer rest => cases answer <;> rfl

/-- A fatal fault changes nothing. Any other outcome is logged first; if it cannot be, only the log
may have changed. Then it takes effect, and a snapshot may be taken. -/
theorem apply_cases (session : Session) (envelope : Envelope) (disk : Disk) :
    (Outcome.isFatal (session.engine.deliver envelope).1 = true ∧
        ∃ failure, session.apply envelope disk = (.error failure, session, disk)) ∨
      Outcome.isFatal (session.engine.deliver envelope).1 = false ∧
        ((∃ failure journal after,
          session.journal.append disk (.ofEnvelope envelope) = (.error failure, journal, after) ∧
          session.apply envelope disk = (.error failure, { session with journal }, after)) ∨
        ∃ journal after,
          session.journal.append disk (.ofEnvelope envelope) = (.ok (), journal, after) ∧
          session.apply envelope disk = apply.afterwards envelope
            { session with engine := (session.engine.deliver envelope).2, journal }
            (session.engine.deliver envelope).1 after) := by
  rw [Session.apply, run_deliverThen_persist]
  cases delivered : session.engine.deliver envelope with
  | mk outcome engine =>
    dsimp only
    by_cases fatal : Outcome.isFatal outcome = true
    · left
      rw [if_pos fatal]
      cases outcome with
      | ok receipt => cases fatal
      | error fault =>
        have isFatal : fault.isFatal = true := fatal
        dsimp only
        rw [if_pos isFatal]
        exact ⟨fatal, _, rfl⟩
    · right
      rw [if_neg fatal]
      refine ⟨Bool.eq_false_iff.mpr fatal, ?_⟩
      cases session.journal.append disk (.ofEnvelope envelope) with
      | mk answer rest =>
        obtain ⟨journal, after⟩ := rest
        cases answer with
        | error failure => exact .inl ⟨failure, journal, after, rfl, rfl⟩
        | ok _ =>
          refine .inr ⟨journal, after, rfl, ?_⟩
          cases outcome with
          | ok receipt => rfl
          | error fault =>
            have notFatal : ¬ fault.isFatal = true := fatal
            dsimp only
            rw [if_neg notFatal]

/-- The envelope comes to an outcome and is put into the log. -/
structure Logs (session : Session) (envelope : Envelope) (disk : Disk) (journal : Journal)
    (between : Disk) : Prop where
  mild : Outcome.isFatal (session.engine.deliver envelope).1 = false
  appended : session.journal.append disk (.ofEnvelope envelope) = (.ok (), journal, between)

/-- The session in which an envelope has taken effect that is in the log. -/
def applied (session : Session) (envelope : Envelope) (journal : Journal) : Session :=
  { session with engine := (session.engine.deliver envelope).2, journal }

/-- An envelope that is fatal or cannot be logged leaves the session and the log as they were. -/
theorem apply_of_not_logs
    (unlogged : ¬ ∃ journal between, session.Logs envelope disk journal between) :
    ∃ failure after, session.apply envelope disk = (.error failure, session, after) ∧
      FileTree.ChangedAt session.journal.path disk.tree after.tree ∧
      after.tree.content? session.journal.path = disk.tree.content? session.journal.path ∧
      (disk.fates = [] → after.fates = []) := by
  rcases apply_cases session envelope disk with
    ⟨_, failure, run⟩ | ⟨mild, ⟨failure, journal, after, refused, run⟩ |
      ⟨journal, after, logged, _⟩⟩
  · exact ⟨failure, disk, run, .refl _ _, rfl, id⟩
  · rcases session.journal.append_cases disk (.ofEnvelope envelope) with
      ⟨_, _, again, changed, content⟩ | ⟨_, _, accepted, _⟩
    · rw [refused] at again
      cases again
      refine ⟨_, _, run, changed, content, fun reliable => ?_⟩
      have fates := Journal.fates_append reliable session.journal (.ofEnvelope envelope)
      rwa [refused] at fates
    · rw [refused] at accepted
      cases accepted
  · exact absurd ⟨journal, after, mild, logged⟩ unlogged

/-- An envelope that is logged takes effect. -/
theorem apply_of_logs {journal : Journal} {between : Disk}
    (logs : session.Logs envelope disk journal between) :
    session.apply envelope disk = apply.afterwards envelope (session.applied envelope journal)
      (session.engine.deliver envelope).1 between := by
  rcases apply_cases session envelope disk with
    ⟨fatal, _⟩ | ⟨_, ⟨_, _, _, refused, _⟩ | ⟨_, _, again, run⟩⟩
  · rw [logs.mild] at fatal
    cases fatal
  · rw [logs.appended] at refused
    cases refused
  · rw [logs.appended] at again
    cases again
    exact run

/-- After an envelope nothing else happens, unless a snapshot is due. -/
theorem afterwards_cases (envelope : Envelope) (session : Session) (outcome : Outcome)
    (disk : Disk) :
    (snapshotDue session.settings envelope.sequence = false ∧
      apply.afterwards envelope session outcome disk = (.ok outcome, session, disk)) ∨
    (snapshotDue session.settings envelope.sequence = true ∧
      apply.afterwards envelope session outcome disk =
        ((session.takeSnapshot disk).1.map fun _ => outcome, session,
          (session.takeSnapshot disk).2)) := by
  rw [apply.afterwards]
  split
  next due => exact .inr ⟨due, rfl⟩
  next notDue => exact .inl ⟨Bool.eq_false_of_not_eq_true notDue, rfl⟩

/-- Nothing but the engine and the log changes when an envelope is delivered. -/
theorem later_of_apply (session : Session) (envelope : Envelope) (disk : Disk) :
    ∃ engine journal, (session.apply envelope disk).2.1 = { session with engine, journal } := by
  by_cases logged : ∃ journal between, session.Logs envelope disk journal between
  · obtain ⟨journal, between, logs⟩ := logged
    refine ⟨(session.engine.deliver envelope).2, journal, ?_⟩
    rw [apply_of_logs logs]
    rcases afterwards_cases envelope (session.applied envelope journal)
      (session.engine.deliver envelope).1 between with ⟨_, plain⟩ | ⟨_, snapshot⟩
    · rw [plain]
      rfl
    · rw [snapshot]
      rfl
  · obtain ⟨_, _, run, _⟩ := apply_of_not_logs logged
    exact ⟨session.engine, session.journal, by rw [run]⟩

/-- What has been logged is taken from a log that can be read. -/
theorem loggedEnvelopes_of_load {journal : Journal} {tree : FileTree}
    (loaded : journal.load tree = .ok (envelopes.map .ofEnvelope)) :
    loggedEnvelopes journal tree = .ok envelopes := by
  have converted : (envelopes.map .ofEnvelope).mapM
      (fun logged => (LoggedEnvelope.toEnvelope logged).mapError Failure.ledger) =
        .ok (envelopes.map id) :=
    @mapM_map_eq_ok _ _ _ _ LoggedEnvelope.ofEnvelope _ id (fun _ => rfl) envelopes
  rw [loggedEnvelopes, loaded]
  exact converted.trans (congrArg Except.ok (List.map_id envelopes))

/-- What there is in the log stays the same if its place does not change. -/
theorem content?_logPath {folder : Path} (leads : disk.tree.LeadsTo folder home)
    (keeps : disk.tree.KeepsFolders after.tree)
    (same : after.tree.at? (home ++ ["requests.log"]) = disk.tree.at? (home ++ ["requests.log"])) :
    after.tree.content? (logPath folder) = disk.tree.content? (logPath folder) :=
  FileTree.content?_of_node? (leads.node?_name (leads.keep keeps) (by decide) same)

/-- A genesis state that has been accepted and saved is loaded with its records in order. -/
theorem loadFile_of_saved {settings : Settings} {folder : Path}
    (leads : disk.tree.LeadsTo folder home)
    (spellable : Path.isSpellable (genesisPath folder) = true)
    (saved : disk.tree.at? (home ++ ["genesis.json"]) = some (.file (utf8 origin.canonicalText)))
    (accepted : (settings.newEngine.initGenesis origin).1 = .ok ()) :
    GenesisState.loadFile (disk.tree.node? (genesisPath folder)) = .ok origin.sorted := by
  have place : disk.tree.place? (genesisPath folder) = some (home ++ ["genesis.json"]) :=
    leads.place?_plain (by decide) (by decide) spellable
  rw [FileTree.node?, place, Option.bind_some, saved,
    GenesisState.loadFile_canonicalText accepted]

/-- A session opens whose genesis state, log and engine fit together, where no snapshot is believed
that does not belong to them. -/
theorem reopen_of_builds {settings : Settings} {name : String} {journal : Journal}
    {engine : Engine}
    (loaded : GenesisState.loadFile (disk.tree.node? (genesisPath (folderPath settings name))) =
      .ok origin.sorted)
    (opening : Journal.openAt disk (logPath (folderPath settings name)) = (.ok journal, disk))
    (logged : loggedEnvelopes journal disk.tree = .ok envelopes)
    (enough : envelopes.length < UInt64.size)
    (builds : settings.Builds origin envelopes engine)
    (belong : ∀ snapshot, Believes settings disk.tree (folderPath settings name) envelopes snapshot →
      snapshot.Belongs settings origin envelopes) :
    reopen settings name disk =
      (.ok ⟨name, folderPath settings name, settings, origin.sorted, engine, journal⟩, disk) := by
  obtain ⟨numbered, place⟩ := builds.numbered
  have same : settings.rebuild origin.sorted = settings.rebuild origin := by
    obtain ⟨start, _, started, _⟩ := builds
    exact Settings.rebuild_of_initGenesis
      (GenesisState.initGenesis_sorted (congrArg Prod.fst started))
  obtain ⟨outcomes, hash, _, run⟩ := builds.rebuild
  rw [← same] at run
  have recovered : recover settings disk.tree (folderPath settings name) origin.sorted envelopes =
      .ok engine := by
    refine recover_of_belong enough run fun snapshot believed => ?_
    rw [Snapshot.Belongs, same]
    exact belong snapshot believed
  have last : engine.lastSequence = journal.lastSequence := by
    rw [place, Journal.lastSequence_of_openAt opening logged, Snapshot.lastLogged, numbered.last,
      UInt64.zero_add]
  exact reopen_of_recover loaded opening logged recovered last

theorem takeSnapshot_of_exportState {state : GenesisState}
    (exported : session.engine.exportState = .ok state) (disk : Disk) :
    session.takeSnapshot disk =
      (Snapshot.ofState session.engine.lastSequence session.engine.generator.nonce state).save disk
        (session.folder ++ ["snapshots"]) := by
  rw [takeSnapshot, exported]
  rfl

/-! ### The folder of a session -/

/-- The folder of the session, whose place is given, holds the genesis state with which the session
has been created, the envelopes that have been delivered, and snapshots that belong to them. -/
structure Kept (origin : GenesisState) (home : Place) (envelopes : List Envelope)
    (session : Session) (disk : Disk) : Prop where
  reliable : disk.fates = []
  folder : session.folder = folderPath session.settings session.name
  made : disk.tree.makeFolders session.folder = (true, disk.tree)
  leads : disk.tree.LeadsTo session.folder home
  spellable : Path.isSpellable (genesisPath session.folder) = true
  saved : disk.tree.at? (home ++ ["genesis.json"]) = some (.file (utf8 origin.canonicalText))
  genesis : session.settings.newEngine.initGenesis session.genesis =
    session.settings.newEngine.initGenesis origin
  builds : session.settings.Builds origin envelopes session.engine
  log : session.journal.path = logPath session.folder
  logged : session.journal.Holds disk.tree (envelopes.map .ofEnvelope)
  readable : ∀ envelope ∈ envelopes, Frame.Readable (.ofEnvelope envelope)
  belong : ∀ name content,
    disk.tree.at? (home ++ ["snapshots", name]) = some (.file content) →
    ∃ snapshot : Snapshot, content = utf8 snapshot.toJson.compact ∧
      snapshot.Belongs session.settings origin envelopes

namespace Kept

theorem readable_map (kept : Kept origin home envelopes session disk) :
    ∀ logged ∈ envelopes.map .ofEnvelope, Frame.Readable logged := by
  intro logged member
  obtain ⟨envelope, delivered, rfl⟩ := List.mem_map.mp member
  exact kept.readable envelope delivered

/-! ### Reading the folder -/

theorem loggedEnvelopes (kept : Kept origin home envelopes session disk) :
    loggedEnvelopes session.journal disk.tree = .ok envelopes :=
  loggedEnvelopes_of_load (kept.logged.load kept.readable_map)

theorem openAt (kept : Kept origin home envelopes session disk) :
    Journal.openAt disk (logPath session.folder) = (.ok session.journal, disk) := by
  have made : disk.tree.makeFolders (Path.parent session.journal.path) = (true, disk.tree) := by
    rw [kept.log, Path.parent, logPath, List.dropLast_concat]
    exact kept.made
  rw [← kept.log]
  exact kept.logged.openAt kept.readable_map made

theorem loadFile (kept : Kept origin home envelopes session disk) :
    GenesisState.loadFile (disk.tree.node? (genesisPath session.folder)) = .ok origin.sorted := by
  obtain ⟨start, _, started, _⟩ := kept.builds
  exact loadFile_of_saved kept.leads kept.spellable kept.saved (congrArg Prod.fst started)

theorem initGenesis_sorted (kept : Kept origin home envelopes session disk) :
    session.settings.newEngine.initGenesis origin.sorted =
      session.settings.newEngine.initGenesis origin := by
  obtain ⟨start, _, started, _⟩ := kept.builds
  exact GenesisState.initGenesis_sorted (congrArg Prod.fst started)

/-- A snapshot that can be used is one that has been taken. -/
theorem belongs_of_usable (kept : Kept origin home envelopes session disk) {snapshot : Snapshot}
    (usable : usableSnapshot? disk.tree session.folder envelopes = some snapshot) :
    snapshot.Belongs session.settings origin envelopes := by
  obtain ⟨latest, _⟩ := usableSnapshot?_eq_some usable
  obtain ⟨sequence, loaded⟩ := Snapshot.latest_eq_some latest
  obtain ⟨content, text, held, encoded, parsed⟩ :=
    Snapshot.load_eq_some kept.leads (by decide) loaded
  obtain ⟨taken, rfl, belongs⟩ := kept.belong _ content held
  rw [utf8?_utf8] at encoded
  obtain rfl := Option.some.inj encoded
  rw [taken.ofText_compact] at parsed
  exact Except.ok.inj parsed ▸ belongs

/-! ### Opening the session again -/

/-- The session that is opened differs in no more than the order of the records in its genesis
state. -/
theorem reopen (kept : Kept origin home envelopes session disk)
    (enough : envelopes.length < UInt64.size) :
    reopen session.settings session.name disk =
        (.ok { session with genesis := origin.sorted }, disk) ∧
      Kept origin home envelopes { session with genesis := origin.sorted } disk := by
  have loaded := kept.loadFile
  have opening := kept.openAt
  refine ⟨?_, { kept with genesis := kept.initGenesis_sorted }⟩
  have belong : ∀ snapshot, Believes session.settings disk.tree session.folder envelopes snapshot →
      snapshot.Belongs session.settings origin envelopes :=
    fun snapshot believed => kept.belongs_of_usable believed.usable
  rw [kept.folder] at loaded opening belong
  rw [reopen_of_builds loaded opening kept.loggedEnvelopes enough kept.builds belong, ← kept.folder]

theorem replay (kept : Kept origin home envelopes session disk) :
    ∃ hash, session.stateHash = .ok hash ∧ session.replay disk.tree = (.ok hash, session) := by
  obtain ⟨outcomes, hash, hashed, run⟩ := kept.builds.rebuild
  refine ⟨hash, ?_, ?_⟩
  · rw [stateHash, hashed]
    rfl
  · rw [← Settings.rebuild_of_initGenesis kept.genesis] at run
    rw [Session.replay, kept.loggedEnvelopes]
    simp only [bind, Except.bind, run, Except.mapError]

/-! ### Calls -/

theorem takeSnapshot (kept : Kept origin home envelopes session disk) :
    Kept origin home envelopes session (session.takeSnapshot disk).2 := by
  obtain ⟨state, exported, _, _, _⟩ := kept.builds.runs.restore
  have plain : Path.Plain "snapshots" := by decide
  let taken := Snapshot.ofState session.engine.lastSequence session.engine.generator.nonce state
  obtain ⟨keeps, others⟩ := Snapshot.save_keeps kept.leads plain taken
  obtain ⟨reliable, own⟩ := Snapshot.save_of_reliable kept.leads plain kept.reliable taken
  rw [takeSnapshot_of_exportState exported]
  generalize taken.save disk (session.folder ++ ["snapshots"]) = saved at keeps others reliable own ⊢
  obtain ⟨result, after⟩ := saved
  have apart {name : String} (different : name ≠ "snapshots") :
      after.tree.at? (home ++ [name]) = disk.tree.at? (home ++ [name]) :=
    others _ (by simpa using different) (by simp)
  have content := content?_logPath kept.leads keeps (apart (by decide))
  rw [← kept.log] at content
  refine { kept with
    reliable
    made := FileTree.makeFolders_again kept.made keeps
    leads := kept.leads.keep keeps
    saved := (apart (by decide)).trans kept.saved
    logged := { kept.logged with content := content.trans kept.logged.content }
    belong := fun name content held => ?_ }
  by_cases same : name = Snapshot.fileName session.engine.lastSequence
  · subst same
    rcases own with before | written
    · exact kept.belong _ content (before.symm.trans held)
    · refine ⟨_, ?_, Snapshot.belongs_ofState kept.builds exported⟩
      exact Node.file.inj (Option.some.inj (held.symm.trans written))
  · have before := others (home ++ ["snapshots", name]) (by simp)
      (by simpa [taken, Snapshot.ofState] using same)
    exact kept.belong name content (before.symm.trans held)

/-- What has been logged is kept along with the engine that it builds. -/
theorem logs {more : List Envelope} {engine : Engine} {journal : Journal}
    (kept : Kept origin home envelopes session disk)
    (changed : FileTree.ChangedAt session.journal.path disk.tree after.tree)
    (reliable : after.fates = []) (log : journal.path = session.journal.path)
    (builds : session.settings.Builds origin (envelopes ++ more) engine)
    (logged : journal.Holds after.tree ((envelopes ++ more).map .ofEnvelope))
    (readable : ∀ envelope ∈ more, Frame.Readable (.ofEnvelope envelope)) :
    Kept origin home (envelopes ++ more) { session with engine, journal } after := by
  have keeps := changed.keepsFolders
  have apart {names : Path} (different : names ≠ ["requests.log"]) :
      after.tree.at? (home ++ names) = disk.tree.at? (home ++ names) := by
    refine changed.others _ fun found => different ?_
    rw [kept.log] at found
    have place := kept.leads.eq_of_place? (List.forall_mem_singleton.mpr (by decide)) found
    exact List.append_cancel_left place
  refine { kept with
    reliable, builds, logged
    made := FileTree.makeFolders_again kept.made keeps
    leads := kept.leads.keep keeps
    saved := (apart (by decide)).trans kept.saved
    log := log.trans kept.log
    readable := fun envelope member => ?_
    belong := fun name content held => ?_ }
  · rcases List.mem_append.mp member with earlier | added
    · exact kept.readable envelope earlier
    · exact readable envelope added
  · obtain ⟨snapshot, written, belongs⟩ :=
      kept.belong name content ((apart (by simp)).symm.trans held)
    exact ⟨snapshot, written, belongs.append more⟩

theorem applied {journal : Journal} {between : Disk}
    (kept : Kept origin home envelopes session disk)
    (fits : (LoggedEnvelope.ofEnvelope envelope).encode.length ≤ Frame.greatestLength)
    (logs : session.Logs envelope disk journal between) :
    Kept origin home (envelopes ++ [envelope]) (session.applied envelope journal) between := by
  obtain ⟨_, changed, _⟩ := Journal.of_append logs.appended
  obtain ⟨log, holds⟩ := kept.logged.of_append logs.appended
  have fates := Journal.fates_append kept.reliable session.journal (.ofEnvelope envelope)
  rw [logs.appended] at fates
  have held : journal.Holds between.tree ((envelopes ++ [envelope]).map .ofEnvelope) := by
    rw [List.map_append]
    exact holds
  exact kept.logs changed fates log (kept.builds.deliver logs.mild) held
    (List.forall_mem_singleton.mpr ⟨LoggedEnvelope.length_encode_ofEnvelope_pos envelope, fits⟩)

/-- Delivering an envelope that the log can hold keeps the folder, with the envelope in its log if
it has used up its place. -/
theorem apply (kept : Kept origin home envelopes session disk)
    (fits : (LoggedEnvelope.ofEnvelope envelope).encode.length ≤ Frame.greatestLength) :
    ∃ result later after more, session.apply envelope disk = (result, later, after) ∧
      Kept origin home (envelopes ++ more) later after ∧ more.length ≤ 1 := by
  by_cases logged : ∃ journal between, session.Logs envelope disk journal between
  · obtain ⟨journal, between, logs⟩ := logged
    have later := kept.applied fits logs
    rw [apply_of_logs logs]
    rcases afterwards_cases envelope (session.applied envelope journal)
      (session.engine.deliver envelope).1 between with ⟨_, plain⟩ | ⟨_, snapshot⟩
    · exact ⟨_, _, _, [envelope], plain, later, le_rfl⟩
    · exact ⟨_, _, _, [envelope], snapshot, later.takeSnapshot, le_rfl⟩
  · obtain ⟨_, after, run, changed, content, reliable⟩ := apply_of_not_logs logged
    have sameList : envelopes ++ [] = envelopes := List.append_nil envelopes
    refine ⟨_, session, after, [], run, ?_, Nat.zero_le 1⟩
    exact kept.logs changed (reliable kept.reliable) rfl (sameList.symm ▸ kept.builds)
      (sameList.symm ▸ { kept.logged with content := content.trans kept.logged.content })
      fun _ member => (List.not_mem_nil member).elim

end Kept

end TokenLedger.Session
