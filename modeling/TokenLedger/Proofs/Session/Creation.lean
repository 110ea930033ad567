/-
This file says when creating a session is all or nothing. A session is created by making its folder,
saving the genesis state and opening the log, in that order, and whatever an earlier session has left
in the folder stays. Where the log that is found can be read and the genesis state is written as a
whole or not at all, a creation that fails has changed no file; where this log is empty too, a session
that has been created stands at the beginning, in its engine and in its log.
-/

import Mathlib
import TokenLedger.Proofs.Engine.Sequencing
import TokenLedger.Proofs.Session.Durability
import TokenLedger.Proofs.Session.Failures

namespace TokenLedger

namespace Session

variable {settings : Settings} {name : String} {genesis : GenesisState} {session : Session}
  {disk started after : Disk} {home : Place} {envelope : Envelope} {failure : Failure}

/-- The tree after the folder of a session has been made. -/
def withFolder (settings : Settings) (name : String) (tree : FileTree) : FileTree :=
  (tree.makeFolders (folderPath settings name)).2

/-- The log that is found in the folder of a session when it is created. -/
def leftLog (settings : Settings) (name : String) (tree : FileTree) :
    Except Failure (List LoggedEnvelope) :=
  Journal.readAt (withFolder settings name tree) (logPath (folderPath settings name))

/-- There is a genesis state already, so that no session is created. -/
def isTaken (settings : Settings) (name : String) (tree : FileTree) : Bool :=
  tree.exists? (genesisPath (folderPath settings name))

/-! ### The three steps of a creation -/

/-- A state that could not be saved, and whose writing did not break off, leaves nothing but
folders. -/
theorem tree_of_save_eq_error {path : Path} {fault : StateFault} (whole : disk.WritesWhole)
    (failed : genesis.save disk path = (.error fault, after)) :
    after.tree = (disk.tree.makeFolders (Path.parent path)).2 := by
  rw [GenesisState.save, Disk.makeFolders] at failed
  cases made : disk.tree.makeFolders (Path.parent path) with
  | mk done tree =>
    rw [made] at failed
    cases done with
    | false => exact congrArg (fun answer => answer.2.tree) failed.symm
    | true =>
      dsimp only at failed
      split at failed
      next between refused =>
        have stillWhole : Disk.WritesWhole ⟨tree, disk.fates⟩ := whole
        have unchanged : between.tree = tree := Disk.writeAfter_eq_false stillWhole refused
        exact (congrArg (fun answer => answer.2.tree) failed.symm).trans unchanged
      next => cases failed

/-- Saving the genesis state leaves the log that is found. -/
theorem readAt_of_save
    (saved : genesis.save disk (genesisPath (folderPath settings name)) = (.ok (), after)) :
    after.tree.makeFolders (folderPath settings name) = (true, after.tree) ∧
      Journal.readAt after.tree (logPath (folderPath settings name)) =
        leftLog settings name disk.tree := by
  obtain ⟨home, tree, made, leads, _, noFolder, rfl⟩ := folder_of_save saved
  have keeps := FileTree.keepsFolders_put (utf8 genesis.canonicalText) noFolder
  have apart : home ++ ["requests.log"] ≠ home ++ ["genesis.json"] := by
    simp
  refine ⟨FileTree.makeFolders_again made keeps, ?_⟩
  rw [leftLog, withFolder, made]
  exact Journal.readAt_of_node? (leads.node?_name (leads.keep keeps) (by decide)
    (FileTree.at?_put_other _ apart))

/-- What is opened then is this log. -/
theorem openAt_of_save
    (saved : genesis.save disk (genesisPath (folderPath settings name)) = (.ok (), after)) :
    Journal.openAt after (logPath (folderPath settings name)) =
      ((leftLog settings name disk.tree).map fun envelopes =>
        ⟨logPath (folderPath settings name), Journal.lastOf envelopes⟩, after) := by
  obtain ⟨made, read⟩ := readAt_of_save saved
  rw [openAt_of_made made, read]

/-- A session is there already, or its genesis state is not accepted, or cannot be saved, and there is
no session; or it is saved, and the log decides. -/
theorem create_cases (settings : Settings) (name : String) (genesis : GenesisState) (disk : Disk) :
    (isTaken settings name disk.tree = true ∧
      create settings name genesis disk = (.error (.sessionExists name), disk)) ∨
    (∃ fault, (settings.newEngine.initGenesis genesis).1 = .error fault ∧
      create settings name genesis disk = (.error (.ledger fault), disk)) ∨
    (∃ fault after,
      genesis.save disk (genesisPath (folderPath settings name)) = (.error fault, after) ∧
      create settings name genesis disk = (.error (.state fault), after)) ∨
    ∃ engine after, settings.newEngine.initGenesis genesis = (.ok (), engine) ∧
      genesis.save disk (genesisPath (folderPath settings name)) = (.ok (), after) ∧
      create settings name genesis disk =
        ((leftLog settings name disk.tree).map fun left =>
          ⟨name, folderPath settings name, settings, genesis, engine,
            ⟨logPath (folderPath settings name), Journal.lastOf left⟩⟩, after) := by
  unfold create
  split
  next taken => exact .inl ⟨taken, rfl⟩
  next =>
    refine .inr ?_
    split
    next fault engine refused => exact .inl ⟨fault, congrArg Prod.fst refused, rfl⟩
    next engine accepted =>
      refine .inr ?_
      unfold settle
      dsimp only
      split
      next fault after failed => exact .inl ⟨fault, after, failed, rfl⟩
      next after saved =>
        refine .inr ⟨engine, after, accepted, saved, ?_⟩
        rw [openAt_of_save saved]
        cases leftLog settings name disk.tree <;> rfl

/-- A creation that fails has made no more than the folder, if the log can be read that was left
there, and the writing of the genesis state does not break off. -/
theorem tree_of_create_eq_error {left : List LoggedEnvelope} (whole : disk.WritesWhole)
    (readable : leftLog settings name disk.tree = .ok left)
    (failed : create settings name genesis disk = (.error failure, after)) :
    after.tree = disk.tree ∨ after.tree = withFolder settings name disk.tree := by
  rcases create_cases settings name genesis disk with
    ⟨_, run⟩ | ⟨_, _, run⟩ | ⟨fault, between, refused, run⟩ | ⟨_, _, _, _, run⟩
  · exact .inl (congrArg (fun answer => answer.2.tree) (failed.symm.trans run))
  · exact .inl (congrArg (fun answer => answer.2.tree) (failed.symm.trans run))
  · obtain rfl : after = between := congrArg Prod.snd (failed.symm.trans run)
    have folders := tree_of_save_eq_error whole refused
    rw [genesisPath, Path.parent, List.dropLast_concat] at folders
    exact .inr folders
  · rw [readable, failed] at run
    cases run

/-- Only where there is a genesis state already is a creation refused for it. -/
theorem isTaken_of_create {other : String}
    (refused : create settings name genesis disk = (.error (.sessionExists other), after)) :
    isTaken settings name disk.tree = true := by
  rcases create_cases settings name genesis disk with
    ⟨taken, _⟩ | ⟨_, _, run⟩ | ⟨_, _, _, run⟩ | ⟨_, _, _, _, run⟩
  · exact taken
  · cases refused.symm.trans run
  · cases refused.symm.trans run
  · rw [refused] at run
    cases found : leftLog settings name disk.tree with
    | ok left =>
      rw [found] at run
      cases run
    | error failure =>
      rw [found] at run
      obtain rfl : Failure.sessionExists other = failure := Except.error.inj (Prod.mk.inj run).1
      exact (Journal.readAt_failsOnlyWith _ _ _ found other rfl).elim

/-- A session that has been created has the log that was left. -/
theorem readAt_of_create
    (created : create settings name genesis disk = (.ok session, started)) :
    Journal.readAt started.tree (logPath (folderPath settings name)) =
      leftLog settings name disk.tree := by
  obtain ⟨engine, between, journal, _, saved, opened, _⟩ := create_eq_ok created
  rw [openAt_of_save saved] at opened
  obtain rfl := (Prod.mk.inj opened).2
  exact (readAt_of_save saved).2

/-! ### A session without a log -/

namespace Created

variable (is : Created home session disk)
include is

/-- A session that has been created takes the log in its folder for its own. -/
theorem journal_eq {left : List LoggedEnvelope}
    (read : Journal.readAt disk.tree (logPath session.folder) = .ok left) :
    session.journal = ⟨logPath session.folder, Journal.lastOf left⟩ := by
  have opening := is.opens
  rw [openAt_of_made is.made, read] at opening
  exact (Except.ok.inj (Prod.mk.inj opening).1).symm

/-- The first envelope of a session whose log is empty is logged. -/
theorem logs (empty : Journal.readAt disk.tree (logPath session.folder) = .ok [])
    (reliable : disk.fates = []) (follows : envelope.Follows 0)
    (fits : (LoggedEnvelope.ofEnvelope envelope).encode.length < UInt32.size) :
    ∃ between, session.Logs envelope disk ⟨logPath session.folder, 1⟩ between := by
  obtain ⟨runs, place, _⟩ := Settings.runs_of_initGenesis is.starts
  obtain ⟨book, sound⟩ := runs.sound
  have spellable : Path.isSpellable (logPath session.folder) = true :=
    Path.isSpellable_of_name is.spellable (by decide) (by decide)
  have leads : disk.tree.place? (logPath session.folder) = some (home ++ ["requests.log"]) :=
    is.leads.place?_plain (by decide) (by decide) spellable
  have content := Journal.content?_of_readAt_nil empty
  have writable := FileTree.filePlace?_of_content? content leads
  obtain ⟨between, appended⟩ : ∃ between, session.journal.append disk (.ofEnvelope envelope) =
      (.ok (), ⟨logPath session.folder, envelope.sequence⟩, between) := by
    rw [is.journal_eq empty]
    exact Journal.append_of_writable content reliable writable follows.2 fits
  rw [follows.2, UInt64.zero_add] at appended
  exact ⟨between, sound.deliver_of_follows runs.initialized (place ▸ follows), appended⟩

/-- What is found in its folder when it is opened: the genesis state and an empty log. -/
theorem found (empty : Journal.readAt disk.tree (logPath session.folder) = .ok []) :
    GenesisState.loadFile
        (disk.tree.node? (genesisPath (folderPath session.settings session.name))) =
      .ok session.genesis.sorted ∧
    Journal.openAt disk (logPath (folderPath session.settings session.name)) =
      (.ok session.journal, disk) ∧
    loggedEnvelopes session.journal disk.tree = .ok [] := by
  have loaded := loadFile_of_saved is.leads is.spellable is.saved (congrArg Prod.fst is.starts)
  have opens := is.opens
  rw [is.folder] at loaded opens
  refine ⟨loaded, opens, loggedEnvelopes_of_load ?_⟩
  rw [Journal.load, is.journal_eq empty]
  exact empty

/-- A session whose log is empty is opened as it has been created. -/
theorem reopen (empty : Journal.readAt disk.tree (logPath session.folder) = .ok [])
    (belong : ∀ snapshot, Believes session.settings disk.tree session.folder [] snapshot →
      snapshot.Belongs session.settings session.genesis []) :
    Session.reopen session.settings session.name disk =
      (.ok { session with genesis := session.genesis.sorted }, disk) := by
  obtain ⟨loaded, opens, logged⟩ := is.found empty
  rw [is.folder] at belong
  rw [reopen_of_builds loaded opens logged (by decide) ⟨session.engine, [], is.starts, rfl⟩ belong,
    ← is.folder]

end Created

/-- The session stands at the beginning, in its engine and in its log. Where writes succeed, the
first envelope takes effect, and is answered with its outcome unless a snapshot is then lost. The
session opens again as it is, if no snapshot is believed that belongs to another genesis state. -/
structure Fresh (session : Session) (disk : Disk) : Prop where
  engine : session.engine.lastSequence = 0
  log : session.journal = ⟨logPath session.folder, 0⟩
  applies : ∀ envelope, disk.fates = [] → envelope.Follows 0 →
    (LoggedEnvelope.ofEnvelope envelope).encode.length < UInt32.size →
    ∃ answer after,
      session.apply envelope disk =
        (answer, session.applied envelope ⟨logPath session.folder, 1⟩, after) ∧
      (session.engine.deliver envelope).2.lastSequence = 1 ∧
      (¬ session.SnapshotLost envelope disk → answer = .ok (session.engine.deliver envelope).1)
  reopens : (∀ snapshot, Believes session.settings disk.tree session.folder [] snapshot →
      snapshot.Belongs session.settings session.genesis []) →
    Session.reopen session.settings session.name disk =
      (.ok { session with genesis := session.genesis.sorted }, disk)

/-- A session that has been created with an empty log is fresh. -/
theorem Created.fresh (is : Created home session disk)
    (empty : Journal.readAt disk.tree (logPath session.folder) = .ok []) : session.Fresh disk where
  engine := (Settings.runs_of_initGenesis is.starts).2.1
  log := is.journal_eq empty
  applies envelope reliable follows fits := by
    obtain ⟨between, logs⟩ := is.logs empty reliable follows fits
    obtain ⟨_, place, _⟩ := Engine.deliver_of_not_fatal logs.mild
    obtain ⟨answer, after, run, answered⟩ := applied_of_logs logs
    exact ⟨answer, after, run, place.trans follows.2, answered⟩
  reopens := is.reopen empty

/-- Where the log that is found can be read, creating a session is all or nothing. A session that
has been created stands at the beginning if that log was empty. A creation that fails, without its
write breaking off, has changed no file; a later one under this name is refused only for a genesis
state that was there before, where the path leads once its folders have been made. -/
theorem create_all_or_nothing {left : List LoggedEnvelope}
    (readable : leftLog settings name disk.tree = .ok left) :
    (∀ session started, create settings name genesis disk = (.ok session, started) → left = [] →
      session.settings = settings ∧ session.name = name ∧ session.genesis = genesis ∧
        session.Fresh started) ∧
    ∀ failure after, create settings name genesis disk = (.error failure, after) →
      disk.WritesWhole →
      disk.tree.SameFiles after.tree ∧
        ∀ later other taken last, later.tree = after.tree →
          create settings name other later = (.error (.sessionExists taken), last) →
          isTaken settings name (withFolder settings name disk.tree) = true := by
  have grown := disk.tree.grown_makeFolders (folderPath settings name)
  refine ⟨fun session started created empty => ?_, fun failure after failed whole => ?_⟩
  · obtain ⟨home, tree, is, made, leads, rfl, rfl, rfl, rfl⟩ := created_of_create created
    have read := readAt_of_create created
    rw [← is.folder, readable, empty] at read
    exact ⟨rfl, rfl, rfl, is.fresh read⟩
  · rcases tree_of_create_eq_error whole readable failed with same | same
    · rw [same]
      refine ⟨.refl _, fun later other taken last unchanged refused => ?_⟩
      exact grown.exists? (unchanged ▸ isTaken_of_create refused)
    · rw [same]
      refine ⟨grown.sameFiles, fun later other taken last unchanged refused => ?_⟩
      exact unchanged ▸ isTaken_of_create refused

/-- A tree with one file in the folder of a session, which is not a genesis state. -/
def leftover (names : Place) (bytes : Bytes) : FileTree :=
  (FileTree.empty.makeFolders (snapshotFolder (folderPath {} "s"))).2.put
    (["ledger_data", "s"] ++ names) bytes

/-- A tree with a log that was left. -/
def leftoverLog (bytes : Bytes) : FileTree :=
  leftover ["requests.log"] bytes

theorem create_all_or_nothing_noFrames :
    leftLog {} "s" (leftoverLog []) = .ok [] ∧
      (∃ session started, create {} "s" .empty (.ofTree (leftoverLog [])) = (.ok session, started) ∧
        session.Fresh started ∧
        ∃ answer later after, session.apply refused started = (answer, later, after) ∧
          later.engine.lastSequence = 1) ∧
      Disk.WritesWhole ⟨leftoverLog [], [.refused]⟩ ∧
      ∃ failure after, create {} "s" .empty ⟨leftoverLog [], [.refused]⟩ = (.error failure, after) ∧
        (leftoverLog []).SameFiles after.tree := by
  have empty : leftLog {} "s" (leftoverLog []) = .ok [] := by
    decide +kernel
  have whole : Disk.WritesWhole ⟨leftoverLog [], [.refused]⟩ := .inr rfl
  refine ⟨empty, ?_, whole, ?_⟩
  · have observed : ((create {} "s" .empty (.ofTree (leftoverLog []))).1.isOk &&
        (create {} "s" .empty (.ofTree (leftoverLog []))).2.fates.isEmpty) = true := by
      decide +kernel
    cases created : create {} "s" .empty (.ofTree (leftoverLog [])) with
    | mk result started =>
      rw [created, Bool.and_eq_true] at observed
      obtain ⟨succeeded, reliable⟩ := observed
      cases result with
      | error failure => cases succeeded
      | ok session =>
        have isEmpty : leftLog {} "s" (Disk.ofTree (leftoverLog [])).tree = .ok [] := empty
        obtain ⟨_, _, _, fresh⟩ := (create_all_or_nothing isEmpty).1 session started created rfl
        obtain ⟨answer, after, run, place, _⟩ := fresh.applies refused
          (List.isEmpty_iff.mp reliable) (by decide) (by decide +kernel)
        exact ⟨session, started, rfl, fresh, answer, _, after, run, place⟩
  · have failed : (create {} "s" .empty ⟨leftoverLog [], [.refused]⟩).1.isOk = false := by
      decide +kernel
    cases created : create {} "s" .empty ⟨leftoverLog [], [.refused]⟩ with
    | mk result after =>
      rw [created] at failed
      cases result with
      | ok session => cases failed
      | error failure =>
        have isEmpty : leftLog {} "s" (Disk.mk (leftoverLog []) [.refused]).tree = .ok [] := empty
        exact ⟨failure, after, rfl, ((create_all_or_nothing isEmpty).2 failure after created whole).1⟩

end Session

end TokenLedger
