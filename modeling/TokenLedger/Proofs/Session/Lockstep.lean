/-
This file proves that the log of a session and its engine move in step, whatever becomes of the
single writes. The log holds the frames of the envelopes that have used up a place in the sequence,
in order, and nothing else, and these envelopes build the engine. An envelope that is fatal, or whose
frame does not arrive as a whole, moves neither; a snapshot is written elsewhere, and building the
ledger again from the log gives the engine that is there. By induction on the calls the two are in
step at any time.
-/

import Mathlib
import TokenLedger.Proofs.Session.Durability
import TokenLedger.Proofs.Session.Failures

namespace TokenLedger.Session

variable {settings : Settings} {name : String} {genesis : GenesisState} {session : Session}
  {disk started after : Disk} {home : Place} {envelopes : List Envelope} {envelope : Envelope}

/-- The envelope of a call, if it has used up a place in the sequence. -/
def usedUpBy (session later : Session) (call : Call) : List Envelope :=
  if later.engine.lastSequence = session.engine.lastSequence then []
  else (call.envelope? session).toList

/-- The envelopes of calls that have used up a place in the sequence. -/
def usedUp (session : Session) (disk : Disk) : List Call → List Envelope
  | [] => []
  | call :: rest =>
    match session.answer disk call with
    | .ok (_, later, after) => session.usedUpBy later call ++ later.usedUp after rest
    | .error _ => []

/-- The log of the session, whose folder has the given place, holds the envelopes that build its
engine. -/
structure InStep (home : Place) (envelopes : List Envelope) (session : Session) (disk : Disk) :
    Prop where
  leads : disk.tree.LeadsTo session.folder home
  builds : session.settings.Builds session.genesis envelopes session.engine
  log : session.journal.path = logPath session.folder
  logged : session.journal.Holds disk.tree (envelopes.map .ofEnvelope)

/-- A new session has an empty log. -/
theorem New.inStep (new : New home session disk) : InStep home [] session disk :=
  ⟨new.leads, ⟨session.engine, [], new.starts, rfl⟩, new.log, new.logged⟩

namespace InStep

theorem lastSequence_eq (inStep : InStep home envelopes session disk) :
    session.journal.lastSequence = session.engine.lastSequence := by
  rw [inStep.logged.last, inStep.builds.numbered.2, List.length_map]

/-! ### One call -/

/-- The file of a snapshot is not the log. -/
theorem takeSnapshot (inStep : InStep home envelopes session disk) :
    InStep home envelopes session (session.takeSnapshot disk).2 := by
  obtain ⟨state, exported, _, _, _⟩ := inStep.builds.runs.restore
  obtain ⟨keeps, others⟩ :=
    Snapshot.save_keeps inStep.leads (show Path.Plain "snapshots" by decide)
      (.ofState session.engine.lastSequence session.engine.generator.nonce state)
  rw [takeSnapshot_of_exportState exported]
  have content := content?_logPath inStep.leads keeps
    (others (home ++ ["requests.log"]) (by simp) (by simp))
  rw [← inStep.log] at content
  exact { inStep with
    leads := inStep.leads.keep keeps
    logged := { inStep.logged with content := content.trans inStep.logged.content } }

/-- Building the ledger again, where the log can be read, gives the engine that is there. -/
theorem replay (inStep : InStep home envelopes session disk) :
    (session.replay disk.tree).2 = session := by
  have positive : ∀ logged ∈ envelopes.map .ofEnvelope,
      0 < (logged : LoggedEnvelope).encode.length := by
    intro logged member
    obtain ⟨envelope, _, rfl⟩ := List.mem_map.mp member
    exact LoggedEnvelope.length_encode_ofEnvelope_pos envelope
  obtain ⟨outcomes, hash, _, run⟩ := inStep.builds.rebuild
  rw [Session.replay]
  rcases inStep.logged.load_cases positive with loaded | ⟨failure, unreadable⟩
  · rw [loggedEnvelopes_of_load loaded]
    simp only [bind, Except.bind, run, Except.mapError]
  · rw [loggedEnvelopes, unreadable]
    rfl

/-- An envelope that is put into the log moves the engine. -/
theorem applied {journal : Journal} {between : Disk}
    (inStep : InStep home envelopes session disk)
    (logs : session.Logs envelope disk journal between) :
    InStep home (envelopes ++ [envelope]) (session.applied envelope journal) between ∧
      (session.applied envelope journal).engine.lastSequence ≠ session.engine.lastSequence := by
  obtain ⟨next, place, _⟩ := Engine.deliver_of_not_fatal logs.mild
  obtain ⟨_, changed, _⟩ := Journal.of_append logs.appended
  obtain ⟨log, holds⟩ := inStep.logged.of_append logs.appended
  have held : journal.Holds between.tree ((envelopes ++ [envelope]).map .ofEnvelope) := by
    rw [List.map_append]
    exact holds
  refine ⟨⟨inStep.leads.keep changed.keepsFolders, inStep.builds.deliver logs.mild,
    log.trans inStep.log, held⟩, ?_⟩
  show (session.engine.deliver envelope).2.lastSequence ≠ session.engine.lastSequence
  rw [place, next]
  simp

/-- An envelope is put into the log and moves the engine, or it moves neither. -/
theorem apply (inStep : InStep home envelopes session disk) (envelope : Envelope) :
    ∃ result later after, session.apply envelope disk = (result, later, after) ∧
      InStep home (envelopes ++ session.usedUpBy later (.apply envelope)) later after ∧
      later.folder = session.folder ∧
      (later.engine.lastSequence ≠ session.engine.lastSequence ↔
        ∃ journal between, session.Logs envelope disk journal between) := by
  by_cases logged : ∃ journal between, session.Logs envelope disk journal between
  · obtain ⟨journal, between, logs⟩ := logged
    obtain ⟨later, moved⟩ := inStep.applied logs
    have uses : session.usedUpBy (session.applied envelope journal) (.apply envelope) =
        [envelope] := if_neg moved
    rw [← uses] at later
    rw [apply_of_logs logs]
    rcases afterwards_cases envelope (session.applied envelope journal)
      (session.engine.deliver envelope).1 between with ⟨_, plain⟩ | ⟨_, snapshot⟩
    · exact ⟨_, _, _, plain, later, rfl, iff_of_true moved ⟨journal, between, logs⟩⟩
    · exact ⟨_, _, _, snapshot, later.takeSnapshot, rfl,
        iff_of_true moved ⟨journal, between, logs⟩⟩
  · obtain ⟨failure, after, run, changed, content, _⟩ := apply_of_not_logs logged
    refine ⟨_, session, after, run, ?_, rfl, iff_of_false (not_not.mpr rfl) logged⟩
    rw [usedUpBy, if_pos rfl, List.append_nil]
    exact { inStep with
      leads := inStep.leads.keep changed.keepsFolders
      logged := { inStep.logged with content := content.trans inStep.logged.content } }

/-- Every call but opening the session again is answered, and the log and the engine are in step
afterwards. -/
theorem answer {call : Call} (inStep : InStep home envelopes session disk)
    (stays : call ≠ .reopen) :
    ∃ reply later after, session.answer disk call = .ok (reply, later, after) ∧
      InStep home (envelopes ++ session.usedUpBy later call) later after ∧
      later.folder = session.folder := by
  have unmoved {after : Disk} {call : Call} (same : InStep home envelopes session after) :
      InStep home (envelopes ++ session.usedUpBy session call) session after := by
    rw [usedUpBy, if_pos rfl, List.append_nil]
    exact same
  cases call with
  | apply envelope =>
    obtain ⟨result, later, after, run, step, folder, _⟩ := inStep.apply envelope
    exact ⟨.outcome result, later, after, by rw [Session.answer, run], step, folder⟩
  | submit request =>
    obtain ⟨result, later, after, run, step, folder, _⟩ := inStep.apply (session.next request)
    exact ⟨.outcome result, later, after, by rw [answer_submit, ← next, Session.answer, run], step,
      folder⟩
  | snapshot => exact ⟨_, session, _, rfl, unmoved inStep.takeSnapshot, rfl⟩
  | replay =>
    refine ⟨_, (session.replay disk.tree).2, disk, rfl, ?_⟩
    rw [inStep.replay]
    exact ⟨unmoved inStep, rfl⟩
  | reopen => exact absurd rfl stays

/-! ### Runs -/

/-- By induction on the calls, the log and the engine are in step at the end. -/
theorem run {calls : List Call} (inStep : InStep home envelopes session disk)
    (stays : ∀ call ∈ calls, call ≠ .reopen) :
    ∃ replies later after, session.run disk calls = .ok (replies, later, after) ∧
      InStep home (envelopes ++ session.usedUp disk calls) later after ∧
      later.folder = session.folder := by
  induction calls generalizing session disk envelopes with
  | nil =>
    refine ⟨[], session, disk, rfl, ?_, rfl⟩
    rw [usedUp, List.append_nil]
    exact inStep
  | cons call rest inductionHypothesis =>
    obtain ⟨first, others⟩ := List.forall_mem_cons.mp stays
    obtain ⟨reply, between, disk', answered, step, folder⟩ := inStep.answer first
    obtain ⟨replies, later, after, ran, end_, laterFolder⟩ := inductionHypothesis step others
    refine ⟨reply :: replies, later, after, ?_, ?_, laterFolder.trans folder⟩
    · rw [Session.run, answered]
      simp only [bind, Except.bind, ran, pure, Except.pure]
    · rw [usedUp, answered]
      dsimp only
      rw [← List.append_assoc]
      exact end_

end InStep

/-- A session that is created where there is no file answers any calls that do not open it again,
whatever becomes of the writes. At any time its log stands at the place at which its engine stands,
and the bytes of the log are the frames of the envelopes that have used up a place in the sequence,
one after the other. An envelope uses up a place exactly if it is not fatal and its frame is
written. -/
theorem log_in_step {calls : List Call}
    (vacant : (disk.tree.makeFolders (folderPath settings name)).2.filesBelow
      (folderPath settings name) = [])
    (created : create settings name genesis disk = (.ok session, started))
    (stays : ∀ call ∈ calls, call ≠ .reopen) :
    ∃ replies live last, session.run started calls = .ok (replies, live, last) ∧
      live.journal.lastSequence = live.engine.lastSequence ∧
      last.tree.content? (logPath (folderPath settings name)) =
        some (Frame.writeAll ((session.usedUp started calls).map .ofEnvelope)) ∧
      ∀ envelope,
        (live.apply envelope last).2.1.engine.lastSequence ≠ live.engine.lastSequence ↔
          Outcome.isFatal (live.engine.deliver envelope).1 = false ∧
            (live.journal.append last (.ofEnvelope envelope)).1 = .ok () := by
  obtain ⟨⟨home, new⟩, _, rfl, rfl, rfl⟩ := new_of_create vacant created
  obtain ⟨replies, live, last, run, inStep, folder⟩ := new.inStep.run stays
  refine ⟨replies, live, last, run, inStep.lastSequence_eq, ?_, fun envelope => ?_⟩
  · rw [← new.folder, ← folder, ← inStep.log]
    exact inStep.logged.content
  · obtain ⟨_, later, _, applied, _, _, moves⟩ := inStep.apply envelope
    rw [applied, moves]
    constructor
    · rintro ⟨journal, between, logs⟩
      exact ⟨logs.mild, by rw [logs.appended]⟩
    · rintro ⟨mild, accepted⟩
      exact ⟨_, _, mild, Prod.ext accepted rfl⟩

/-- A request that is refused, although not for a fatal fault. -/
def freezeUnknown : Request := .order .freeze ⟨"1", "GLD-1A2", "alice"⟩

/-- Both requests are tried twice, the first time with a write that fails, and a snapshot fails in
between. The last envelope is out of sequence. -/
def faultyCalls : List Call := [
  .submit issueGold, .submit issueGold, .snapshot, .submit freezeUnknown, .submit freezeUnknown,
  .apply ⟨1, schemaVersion, issueGold⟩, .replay]

/-- What becomes of the writes, the first of which is that of the genesis state. -/
def faults : List WriteFate := [.done, .cut 5, .done, .cut 3, .unconfirmed, .done]

theorem log_in_step_faults :
    ∃ session started, create {} "s" .empty ⟨.empty, faults⟩ = (.ok session, started) ∧
      session.usedUp started faultyCalls =
        [⟨1, schemaVersion, issueGold⟩, ⟨2, schemaVersion, freezeUnknown⟩] ∧
      ∃ replies live last, session.run started faultyCalls = .ok (replies, live, last) ∧
        live.journal.lastSequence = live.engine.lastSequence ∧
        last.tree.content? (logPath (folderPath {} "s")) =
          some (Frame.writeAll [.ofEnvelope ⟨1, schemaVersion, issueGold⟩,
            .ofEnvelope ⟨2, schemaVersion, freezeUnknown⟩]) := by
  have vacant : ((Disk.mk .empty faults).tree.makeFolders (folderPath {} "s")).2.filesBelow
      (folderPath {} "s") = [] := by
    decide +kernel
  have used : ((create {} "s" .empty ⟨.empty, faults⟩).1.toOption.map fun session =>
        session.usedUp (create {} "s" .empty ⟨.empty, faults⟩).2 faultyCalls) =
      some [⟨1, schemaVersion, issueGold⟩, ⟨2, schemaVersion, freezeUnknown⟩] := by
    decide +kernel
  have stays : ∀ call ∈ faultyCalls, call ≠ .reopen := by simp [faultyCalls]
  cases created : create {} "s" .empty ⟨.empty, faults⟩ with
  | mk result started =>
    rw [created] at used
    cases result with
    | error failure => cases used
    | ok session =>
      have uses : session.usedUp started faultyCalls =
          [⟨1, schemaVersion, issueGold⟩, ⟨2, schemaVersion, freezeUnknown⟩] := Option.some.inj used
      obtain ⟨replies, live, last, run, place, content, _⟩ := log_in_step vacant created stays
      rw [uses] at content
      exact ⟨session, started, rfl, uses, replies, live, last, run, place, content⟩

end TokenLedger.Session
