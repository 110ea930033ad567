/-
This file proves that a session is durable. A session that has been created where there was none can
be opened again after any calls, and what is opened is the ledger as it stands: it has the same
state, place and number of proposals, and gives the same answers to all that it is asked later.
Building the ledger again from its log changes nothing. By induction on the calls, the folder of the
session stands for it throughout; that what is opened goes on like the session follows by another
induction, since the two differ in no more than the order in which a genesis state is written.
-/

import Mathlib
import TokenLedger.Proofs.Session.Keeping

namespace TokenLedger.Session

variable {settings : Settings} {name : String} {genesis : GenesisState} {session : Session}
  {disk started after : Disk} {home : Place} {envelopes : List Envelope}

/-! ### A new session -/

/-- A state that has been saved is in its file. -/
theorem save_eq_ok {path : Path} (saved : genesis.save disk path = (.ok (), after)) :
    ∃ tree place, disk.tree.makeFolders (Path.parent path) = (true, tree) ∧
      tree.filePlace? path = some place ∧
      after = ⟨tree.put place (utf8 genesis.canonicalText), disk.fates.tail⟩ := by
  rw [GenesisState.save, Disk.makeFolders] at saved
  cases made : disk.tree.makeFolders (Path.parent path) with
  | mk done tree =>
    rw [made] at saved
    cases done with
    | false => cases saved
    | true =>
      dsimp only at saved
      split at saved
      next => cases saved
      next written =>
        cases saved
        obtain ⟨place, writable, rfl⟩ := Disk.writeAfter_eq_true written
        exact ⟨tree, place, rfl, writable, rfl⟩

theorem create_eq_ok (created : create settings name genesis disk = (.ok session, started)) :
    ∃ engine between journal, settings.newEngine.initGenesis genesis = (.ok (), engine) ∧
      genesis.save disk (genesisPath (folderPath settings name)) = (.ok (), between) ∧
      Journal.openAt between (logPath (folderPath settings name)) = (.ok journal, started) ∧
      session = ⟨name, folderPath settings name, settings, genesis, engine, journal⟩ := by
  unfold create at created
  split at created
  next => cases created
  next =>
    split at created
    next => cases created
    next engine accepted =>
      unfold settle at created
      dsimp only at created
      split at created
      next => cases created
      next between saved =>
        obtain ⟨opened, same⟩ := Prod.mk.inj created
        obtain ⟨journal, isOpen, rfl⟩ := map_eq_ok opened
        exact ⟨engine, between, journal, accepted, saved, Prod.ext isOpen same, rfl⟩

/-- A session has been created in a folder, whose place is given: its genesis state has been saved
there, its log has been opened, and its engine has loaded the genesis state. -/
structure Created (home : Place) (session : Session) (disk : Disk) : Prop where
  folder : session.folder = folderPath session.settings session.name
  made : disk.tree.makeFolders session.folder = (true, disk.tree)
  leads : disk.tree.LeadsTo session.folder home
  spellable : Path.isSpellable (genesisPath session.folder) = true
  saved : disk.tree.at? (home ++ ["genesis.json"]) =
    some (.file (utf8 session.genesis.canonicalText))
  starts : session.settings.newEngine.initGenesis session.genesis = (.ok (), session.engine)
  opens : Journal.openAt disk (logPath session.folder) = (.ok session.journal, disk)

/-- Saving a genesis state makes the folder and puts one file into it. -/
theorem folder_of_save {folder : Path}
    (saved : genesis.save disk (genesisPath folder) = (.ok (), after)) :
    ∃ home tree, disk.tree.makeFolders folder = (true, tree) ∧ tree.LeadsTo folder home ∧
      Path.isSpellable (genesisPath folder) = true ∧
      tree.holdsFolder (home ++ ["genesis.json"]) = false ∧
      after = ⟨tree.put (home ++ ["genesis.json"]) (utf8 genesis.canonicalText),
        disk.fates.tail⟩ := by
  obtain ⟨tree, place, made, writable, rfl⟩ := save_eq_ok saved
  rw [genesisPath, Path.parent, List.dropLast_concat] at made
  obtain ⟨found, noFolder⟩ := FileTree.filePlace?_eq_some_iff.mp writable
  obtain ⟨spellable, home, leads⟩ := FileTree.leadsTo_of_place? found
  obtain rfl := leads.eq_of_place? (List.forall_mem_singleton.mpr (by decide)) found
  exact ⟨home, tree, made, leads, spellable, noFolder, rfl⟩

/-- The log is then opened in the same folder, which changes nothing. -/
theorem openAt_of_made {folder : Path} (made : disk.tree.makeFolders folder = (true, disk.tree)) :
    Journal.openAt disk (logPath folder) =
      ((Journal.readAt disk.tree (logPath folder)).map fun envelopes =>
        ⟨logPath folder, Journal.lastOf envelopes⟩, disk) := by
  refine Journal.openAt_of_folder ?_
  rw [logPath, Path.parent, List.dropLast_concat]
  exact made

/-- A session that has been created is in its folder, with one file more than there was. -/
theorem created_of_create
    (created : create settings name genesis disk = (.ok session, started)) :
    ∃ home tree, Created home session started ∧
      disk.tree.makeFolders (folderPath settings name) = (true, tree) ∧
      tree.LeadsTo (folderPath settings name) home ∧
      started = ⟨tree.put (home ++ ["genesis.json"]) (utf8 genesis.canonicalText),
        disk.fates.tail⟩ ∧
      session.settings = settings ∧ session.name = name ∧ session.genesis = genesis := by
  obtain ⟨engine, between, journal, accepted, saved, opened, rfl⟩ := create_eq_ok created
  obtain ⟨home, tree, made, leads, spellable, noFolder, rfl⟩ := folder_of_save saved
  have keeps := FileTree.keepsFolders_put (utf8 genesis.canonicalText) noFolder
  have folder := FileTree.makeFolders_again made keeps
  have opening := opened
  rw [openAt_of_made folder] at opening
  obtain ⟨_, rfl⟩ := Prod.mk.inj opening
  exact ⟨home, tree, {
    folder := rfl
    made := folder
    leads := leads.keep keeps
    spellable
    saved := FileTree.at?_put_self _ (FileTree.ne_root_of_noFolder noFolder)
    starts := accepted
    opens := opened }, made, leads, rfl, rfl, rfl, rfl⟩

/-- A session has just been created: its folder, whose place is given, holds its genesis state and no
other file, and nothing has been logged. -/
structure New (home : Place) (session : Session) (disk : Disk) : Prop where
  folder : session.folder = folderPath session.settings session.name
  made : disk.tree.makeFolders session.folder = (true, disk.tree)
  leads : disk.tree.LeadsTo session.folder home
  spellable : Path.isSpellable (genesisPath session.folder) = true
  saved : disk.tree.at? (home ++ ["genesis.json"]) =
    some (.file (utf8 session.genesis.canonicalText))
  bare : ∀ names content, names ≠ ["genesis.json"] →
    disk.tree.at? (home ++ names) ≠ some (.file content)
  starts : session.settings.newEngine.initGenesis session.genesis = (.ok (), session.engine)
  log : session.journal.path = logPath session.folder
  logged : session.journal.Holds disk.tree []

/-- What is created where there is no file is new. One write has been made. -/
theorem new_of_create
    (vacant : (disk.tree.makeFolders (folderPath settings name)).2.filesBelow
      (folderPath settings name) = [])
    (created : create settings name genesis disk = (.ok session, started)) :
    (∃ home, New home session started) ∧ started.fates = disk.fates.tail ∧
      session.settings = settings ∧ session.name = name ∧ session.genesis = genesis := by
  obtain ⟨home, tree, is, made, leads, rfl, rfl, rfl, rfl⟩ := created_of_create created
  rw [made] at vacant
  rw [← is.folder] at leads vacant
  have bare (names : Path) (content : Bytes) (other : names ≠ ["genesis.json"]) :
      (tree.put (home ++ ["genesis.json"]) (utf8 session.genesis.canonicalText)).at?
        (home ++ names) ≠ some (.file content) := by
    rw [FileTree.at?_put_other _ fun same => other (List.append_cancel_left same)]
    exact leads.ne_file_of_filesBelow (Path.isSpellable_of_append is.spellable) vacant names content
  obtain ⟨_, journal, holds⟩ := Journal.holds_of_noFile
    (by rw [logPath, Path.parent, List.dropLast_concat]; exact is.made) is.opens
    (fun place content leadsTo => by
      obtain rfl := is.leads.eq_of_place? (List.forall_mem_singleton.mpr (by decide)) leadsTo
      exact bare _ content (by decide))
  exact ⟨⟨home, {
    folder := is.folder
    made := is.made
    leads := is.leads
    spellable := is.spellable
    saved := is.saved
    bare
    starts := is.starts
    log := congrArg Journal.path journal
    logged := holds }⟩, rfl, rfl, rfl, rfl⟩

/-- The folder of a new session stands for it. -/
theorem New.kept (new : New home session disk) (reliable : disk.fates = []) :
    Kept session.genesis home [] session disk where
  reliable := reliable
  folder := new.folder
  made := new.made
  leads := new.leads
  spellable := new.spellable
  saved := new.saved
  genesis := rfl
  builds := ⟨session.engine, [], new.starts, rfl⟩
  log := new.log
  logged := new.logged
  readable := fun _ member => (List.not_mem_nil member).elim
  belong := fun other content held => absurd held (new.bare _ content (by simp))

/-! ### Calls -/

/-- What a session is asked to do. -/
inductive Call where
  | apply (envelope : Envelope)
  | submit (request : Request)
  | snapshot
  | replay
  /-- Close the session and open it again. -/
  | reopen

/-- What a call is answered with. -/
inductive Reply where
  | outcome (result : Except Failure Outcome)
  | snapshot (result : Except Failure Path)
  | hash (result : Except Failure String)
  | opened

/-- The envelope that a call delivers. -/
def Call.envelope? (session : Session) : Call → Option Envelope
  | .apply envelope => some envelope
  | .submit request => some ⟨session.engine.lastSequence + 1, schemaVersion, request⟩
  | .snapshot | .replay | .reopen => none

/-- Answer a call. A session that cannot be opened again is lost. -/
def answer (session : Session) (disk : Disk) : Call → Except Failure (Reply × Session × Disk)
  | .apply envelope =>
    let answered := session.apply envelope disk
    .ok (.outcome answered.1, answered.2)
  | .submit request =>
    let answered := session.submit request disk
    .ok (.outcome answered.1, answered.2)
  | .snapshot =>
    let answered := session.takeSnapshot disk
    .ok (.snapshot answered.1, session, answered.2)
  | .replay =>
    let answered := session.replay disk.tree
    .ok (.hash answered.1, answered.2, disk)
  | .reopen =>
    let answered := reopen session.settings session.name disk
    answered.1.map fun session => (.opened, session, answered.2)

/-- Answer calls one after the other. -/
def run (session : Session) (disk : Disk) :
    List Call → Except Failure (List Reply × Session × Disk)
  | [] => .ok ([], session, disk)
  | call :: rest => do
    let (reply, session, disk) ← session.answer disk call
    let (replies, session, disk) ← session.run disk rest
    return (reply :: replies, session, disk)

/-- Whether no envelope that the calls deliver is longer than a log is read. -/
def fitsFrames (session : Session) (disk : Disk) : List Call → Bool
  | [] => true
  | call :: rest =>
    (call.envelope? session).all (fun envelope =>
      (LoggedEnvelope.ofEnvelope envelope).encode.length ≤ Frame.greatestLength) &&
    match session.answer disk call with
    | .ok (_, session, disk) => session.fitsFrames disk rest
    | .error _ => true

/-! ### The folder stands for the session -/

/-- A request is delivered as the envelope that comes next. -/
theorem answer_submit (session : Session) (disk : Disk) (request : Request) :
    session.answer disk (.submit request) =
      session.answer disk (.apply ⟨session.engine.lastSequence + 1, schemaVersion, request⟩) :=
  rfl

theorem Kept.answer_apply {envelope : Envelope}
    (kept : Kept genesis home envelopes session disk)
    (fits : (LoggedEnvelope.ofEnvelope envelope).encode.length ≤ Frame.greatestLength) :
    ∃ reply later after more, session.answer disk (.apply envelope) = .ok (reply, later, after) ∧
      later.settings = session.settings ∧ later.name = session.name ∧
      Kept genesis home (envelopes ++ more) later after ∧ more.length ≤ 1 := by
  obtain ⟨engine, journal, same⟩ := later_of_apply session envelope disk
  obtain ⟨result, later, after, more, run, rest⟩ := kept.apply fits
  rw [run] at same
  obtain rfl : later = { session with engine, journal } := same
  refine ⟨.outcome result, { session with engine, journal }, after, more, ?_, rfl, rfl, rest⟩
  rw [answer, run]

/-- Every call is answered, and the folder stands for the session afterwards. -/
theorem Kept.answer {call : Call} (kept : Kept genesis home envelopes session disk)
    (fits : (call.envelope? session).all (fun envelope =>
      (LoggedEnvelope.ofEnvelope envelope).encode.length ≤ Frame.greatestLength) = true)
    (enough : envelopes.length + 1 < UInt64.size) :
    ∃ reply later after more, session.answer disk call = .ok (reply, later, after) ∧
      later.settings = session.settings ∧ later.name = session.name ∧
      Kept genesis home (envelopes ++ more) later after ∧ more.length ≤ 1 := by
  have unchanged : envelopes ++ [] = envelopes := List.append_nil envelopes
  cases call with
  | apply envelope => exact kept.answer_apply (of_decide_eq_true fits)
  | submit request =>
    rw [answer_submit]
    exact kept.answer_apply (of_decide_eq_true fits)
  | snapshot =>
    refine ⟨_, session, _, [], rfl, rfl, rfl, ?_, Nat.zero_le 1⟩
    exact unchanged.symm ▸ kept.takeSnapshot
  | replay =>
    obtain ⟨hash, _, run⟩ := kept.replay
    refine ⟨.hash (.ok hash), session, disk, [], ?_, rfl, rfl, unchanged.symm ▸ kept,
      Nat.zero_le 1⟩
    show Except.ok (Reply.hash (session.replay disk.tree).1, _) = _
    rw [run]
  | reopen =>
    obtain ⟨opened, still⟩ := kept.reopen (by omega)
    refine ⟨.opened, { session with genesis := genesis.sorted }, disk, [], ?_, rfl, rfl,
      unchanged.symm ▸ still, Nat.zero_le 1⟩
    show (Session.reopen session.settings session.name disk).1.map _ = _
    rw [opened]
    rfl

/-- By induction on the calls, each of them is answered, and the folder stands for the session at
the end. -/
theorem Kept.run {calls : List Call} (kept : Kept genesis home envelopes session disk)
    (fits : session.fitsFrames disk calls = true)
    (enough : envelopes.length + calls.length < UInt64.size) :
    ∃ replies later after more, session.run disk calls = .ok (replies, later, after) ∧
      later.settings = session.settings ∧ later.name = session.name ∧
      Kept genesis home (envelopes ++ more) later after ∧ more.length ≤ calls.length := by
  induction calls generalizing session disk envelopes with
  | nil =>
    refine ⟨[], session, disk, [], rfl, rfl, rfl, ?_, Nat.zero_le 0⟩
    exact (List.append_nil envelopes).symm ▸ kept
  | cons call rest inductionHypothesis =>
    rw [List.length_cons] at enough
    rw [fitsFrames, Bool.and_eq_true] at fits
    obtain ⟨reply, between, disk', more, answered, settings, name, step, few⟩ :=
      kept.answer fits.1 (by omega)
    rw [answered] at fits
    have bound : (envelopes ++ more).length + rest.length < UInt64.size := by
      rw [List.length_append]
      omega
    obtain ⟨replies, later, after, others, ran, laterSettings, laterName, end_, fewer⟩ :=
      inductionHypothesis step fits.2 bound
    refine ⟨reply :: replies, later, after, more ++ others, ?_, laterSettings.trans settings,
      laterName.trans name, List.append_assoc envelopes more others ▸ end_, ?_⟩
    · rw [Session.run, answered]
      simp only [bind, Except.bind, ran, pure, Except.pure]
    · rw [List.length_append, List.length_cons]
      omega

/-! ### Sessions that go on alike -/

/-- The sessions differ in no more than genesis states from which the same ledger starts. -/
def Alike (session twin : Session) : Prop :=
  ∃ genesis, twin = { session with genesis } ∧
    session.settings.newEngine.initGenesis genesis =
      session.settings.newEngine.initGenesis session.genesis

theorem Alike.refl (session : Session) : session.Alike session :=
  ⟨session.genesis, rfl, rfl⟩

theorem afterwards_withGenesis (envelope : Envelope) (session : Session) (genesis : GenesisState)
    (outcome : Outcome) (disk : Disk) :
    apply.afterwards envelope { session with genesis } outcome disk =
      ((apply.afterwards envelope session outcome disk).1,
        { (apply.afterwards envelope session outcome disk).2.1 with genesis },
        (apply.afterwards envelope session outcome disk).2.2) := by
  rw [apply.afterwards, apply.afterwards]
  dsimp only
  split <;> rfl

/-- Delivering does not look at the genesis state. -/
theorem apply_withGenesis (session : Session) (genesis : GenesisState) (envelope : Envelope)
    (disk : Disk) :
    { session with genesis }.apply envelope disk =
      ((session.apply envelope disk).1, { (session.apply envelope disk).2.1 with genesis },
        (session.apply envelope disk).2.2) := by
  rw [Session.apply, Session.apply]
  dsimp only
  generalize (session.engine.deliverThen envelope (persist envelope)).run (session.journal, disk) =
    ran
  obtain ⟨⟨delivered, engine⟩, journal, after⟩ := ran
  cases delivered with
  | error failure => rfl
  | ok outcome =>
    cases outcome with
    | ok receipt =>
      exact afterwards_withGenesis envelope { session with engine, journal } genesis _ after
    | error fault =>
      dsimp only
      split
      next => rfl
      next => exact afterwards_withGenesis envelope { session with engine, journal } genesis _ after

/-- Building the ledger again comes to the same from both genesis states. -/
theorem replay_withGenesis {genesis : GenesisState}
    (same : session.settings.newEngine.initGenesis genesis =
      session.settings.newEngine.initGenesis session.genesis) (tree : FileTree) :
    ∃ engine, (session.replay tree).2 = { session with engine } ∧
      { session with genesis }.replay tree =
        ((session.replay tree).1, { session with engine, genesis }) := by
  rw [replay, replay, Settings.rebuild_of_initGenesis same]
  dsimp only
  generalize (do
    let envelopes ← loggedEnvelopes session.journal tree
    (session.settings.rebuild session.genesis envelopes).mapError Failure.ledger) = rebuilt
  cases rebuilt with
  | error failure => exact ⟨session.engine, rfl, rfl⟩
  | ok rebuilt => exact ⟨rebuilt.engine, rfl, rfl⟩

theorem Alike.answer_apply {twin : Session} (alike : session.Alike twin) (disk : Disk)
    (envelope : Envelope) :
    ∃ reply later other after, session.answer disk (.apply envelope) = .ok (reply, later, after) ∧
      twin.answer disk (.apply envelope) = .ok (reply, other, after) ∧ later.Alike other := by
  obtain ⟨genesis, rfl, same⟩ := alike
  obtain ⟨engine, journal, later⟩ := later_of_apply session envelope disk
  rw [answer, answer, apply_withGenesis session genesis envelope disk]
  refine ⟨_, _, _, _, rfl, rfl, genesis, rfl, ?_⟩
  rw [later]
  exact same

/-- Two sessions are answered alike, and go on alike. -/
theorem Alike.answer {twin : Session} (alike : session.Alike twin) (disk : Disk) (call : Call) :
    (∃ failure, session.answer disk call = .error failure ∧
      twin.answer disk call = .error failure) ∨
      ∃ reply later other after, session.answer disk call = .ok (reply, later, after) ∧
        twin.answer disk call = .ok (reply, other, after) ∧ later.Alike other := by
  have delivered := alike.answer_apply disk
  obtain ⟨genesis, rfl, same⟩ := alike
  cases call with
  | apply envelope => exact .inr (delivered envelope)
  | submit request =>
    rw [answer_submit, answer_submit]
    exact .inr (delivered _)
  | snapshot => exact .inr ⟨_, session, _, _, rfl, rfl, genesis, rfl, same⟩
  | replay =>
    obtain ⟨engine, later, twin⟩ := replay_withGenesis same disk.tree
    refine .inr ⟨_, _, { session with engine, genesis }, disk, rfl, ?_, genesis, ?_, ?_⟩
    · show Except.ok (Reply.hash ({ session with genesis }.replay disk.tree).1, _) = _
      rw [twin]
    · rw [later]
    · rw [later]
      exact same
  | reopen =>
    have asked : { session with genesis }.answer disk .reopen = session.answer disk .reopen := rfl
    rw [asked]
    cases session.answer disk .reopen with
    | error failure => exact .inl ⟨failure, rfl, rfl⟩
    | ok answered =>
      obtain ⟨reply, later, after⟩ := answered
      exact .inr ⟨reply, later, later, after, rfl, rfl, .refl later⟩

theorem replies_run_cons {call : Call} {reply : Reply} {later : Session}
    (answered : session.answer disk call = .ok (reply, later, after)) (rest : List Call) :
    (session.run disk (call :: rest)).map Prod.fst =
      ((later.run after rest).map Prod.fst).map (reply :: ·) := by
  rw [Session.run, answered]
  simp only [bind, Except.bind]
  cases later.run after rest <;> rfl

/-- By induction on the calls, two sessions that are alike give the same replies. -/
theorem Alike.run {twin : Session} (alike : session.Alike twin) (disk : Disk)
    (calls : List Call) :
    (twin.run disk calls).map Prod.fst = (session.run disk calls).map Prod.fst := by
  induction calls generalizing session twin disk with
  | nil => rfl
  | cons call rest inductionHypothesis =>
    rcases alike.answer disk call with failed | ⟨reply, later, other, after, answered, twin, still⟩
    · obtain ⟨failure, answered, twin⟩ := failed
      rw [Session.run, Session.run, answered, twin]
    · rw [replies_run_cons answered, replies_run_cons twin, inductionHypothesis still after]

/-! ### Opening a session again -/

/-- A session that is created where there is no file answers any calls, as long as no envelope is
longer than a log is read and there are fewer calls than there are numbers for envelopes, as for any
log that fits into memory. At any point it can be opened again from what is on the disk, and what is
opened has its state, its digest, its place in the sequence and its number of proposals, and gives
the same replies to all later calls. Building the ledger again gives the digest of the session and
changes nothing. -/
theorem reopen_of_run {calls : List Call} (reliable : disk.fates = [])
    (vacant : (disk.tree.makeFolders (folderPath settings name)).2.filesBelow
      (folderPath settings name) = [])
    (created : create settings name genesis disk = (.ok session, started))
    (fits : session.fitsFrames started calls = true) (enough : calls.length < UInt64.size) :
    ∃ replies live last, session.run started calls = .ok (replies, live, last) ∧
      (∃ recovered, reopen settings name last = (.ok recovered, last) ∧
        recovered.exportState = live.exportState ∧ recovered.stateHash = live.stateHash ∧
        recovered.engine.lastSequence = live.engine.lastSequence ∧
        recovered.engine.generator.nonce = live.engine.generator.nonce ∧
        ∀ later, (recovered.run last later).map Prod.fst = (live.run last later).map Prod.fst) ∧
      ∃ hash, live.stateHash = .ok hash ∧ live.replay last.tree = (.ok hash, live) := by
  obtain ⟨⟨home, new⟩, fates, rfl, rfl, rfl⟩ := new_of_create vacant created
  have start := new.kept (by rw [fates, reliable]; rfl)
  obtain ⟨replies, live, last, delivered, run, sameSettings, sameName, kept, few⟩ :=
    start.run fits (by rw [List.length_nil, Nat.zero_add]; exact enough)
  rw [List.nil_append] at kept
  have opened : reopen session.settings session.name last =
      (.ok { live with genesis := session.genesis.sorted }, last) := by
    rw [← sameSettings, ← sameName]
    exact (kept.reopen (few.trans_lt enough)).1
  have alike : live.Alike { live with genesis := session.genesis.sorted } :=
    ⟨session.genesis.sorted, rfl, kept.initGenesis_sorted.trans kept.genesis.symm⟩
  exact ⟨replies, live, last, run,
    ⟨_, opened, rfl, rfl, rfl, rfl, fun later => alike.run last later⟩, kept.replay⟩

/-- Calls that issue a token, are refused, and have a snapshot taken in between. -/
def oneTokenCalls : List Call := [
  .submit (.issue ⟨"alice", "Gold", "GLD", "100", true⟩),
  .snapshot,
  .submit (.order .freeze ⟨"1", "GLD-1A2", "alice"⟩),
  .replay]

theorem reopen_of_run_oneToken :
    ∃ session started, create {} "s" .empty (.ofTree .empty) = (.ok session, started) ∧
      session.fitsFrames started oneTokenCalls = true ∧
      ∃ replies live last recovered,
        session.run started oneTokenCalls = .ok (replies, live, last) ∧
        reopen {} "s" last = (.ok recovered, last) ∧
        recovered.exportState = live.exportState ∧
        recovered.engine.lastSequence = live.engine.lastSequence ∧
        ∀ later, (recovered.run last later).map Prod.fst = (live.run last later).map Prod.fst := by
  have vacant : ((Disk.ofTree .empty).tree.makeFolders (folderPath {} "s")).2.filesBelow
      (folderPath {} "s") = [] := by
    decide +kernel
  have fits : (match create {} "s" .empty (.ofTree .empty) with
      | (.ok session, started) => session.fitsFrames started oneTokenCalls
      | (.error _, _) => false) = true := by
    decide +kernel
  cases created : create {} "s" .empty (.ofTree .empty) with
  | mk result started =>
    rw [created] at fits
    cases result with
    | error failure => cases fits
    | ok session =>
      obtain ⟨replies, live, last, run, ⟨recovered, opened, state, _, place, _, alike⟩, _⟩ :=
        reopen_of_run rfl vacant created fits (by decide)
      exact ⟨session, started, rfl, fits, replies, live, last, recovered, run, opened, state,
        place, alike⟩

end TokenLedger.Session
