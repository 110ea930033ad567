/-
This file says what a failure means to the caller of a session. An envelope that is refused for a
fatal fault, or cannot be logged, has not been applied: the session is the one from before, and the
log holds what it held. A caller may therefore submit the request again until it succeeds, and it is
applied once. The exception is the snapshot that is taken after an envelope when one is due. It is
taken when the envelope is already in the log, and if this fails, the envelope has been applied
although the caller is told of a failure.
-/

import Mathlib
import TokenLedger.Proofs.Session.Keeping

namespace TokenLedger.Session

variable {session later : Session} {envelope : Envelope} {request : Request}
  {disk after : Disk} {failure : Failure} {outcome : Outcome}

/-- The envelope in which a request is delivered next. -/
def next (session : Session) (request : Request) : Envelope :=
  ⟨session.engine.lastSequence + 1, schemaVersion, request⟩

/-- The envelope is put into the log and takes effect, and then the snapshot that is due cannot be
taken. -/
def SnapshotLost (session : Session) (envelope : Envelope) (disk : Disk) : Prop :=
  snapshotDue session.settings envelope.sequence = true ∧
    ∃ journal between failure, session.Logs envelope disk journal between ∧
      ((session.applied envelope journal).takeSnapshot between).1 = .error failure

/-- A request has been submitted any number of times, and has failed every time, but not for the
loss of a snapshot. Between two attempts the disk may be put in order, as long as the log keeps its
bytes. -/
inductive FailsToSubmit (request : Request) : Session → Disk → Session → Disk → Prop
  | never (session : Session) (disk : Disk) : FailsToSubmit request session disk session disk
  | again {session between later : Session} {disk left repaired after : Disk} {failure : Failure}
      (failed : session.submit request disk = (.error failure, between, left))
      (saved : ¬ session.SnapshotLost (session.next request) disk)
      (repair : ∀ bytes, left.tree.content? session.journal.path = some bytes →
        repaired.tree.content? session.journal.path = some bytes)
      (rest : FailsToSubmit request between repaired later after) :
      FailsToSubmit request session disk later after

/-! ### One call -/

/-- A failure leaves the session and the log as they were, unless a snapshot is lost. -/
theorem eq_of_failed (failed : session.apply envelope disk = (.error failure, later, after))
    (saved : ¬ session.SnapshotLost envelope disk) :
    later = session ∧
      after.tree.content? session.journal.path = disk.tree.content? session.journal.path := by
  by_cases logged : ∃ journal between, session.Logs envelope disk journal between
  · obtain ⟨journal, between, logs⟩ := logged
    rw [apply_of_logs logs] at failed
    rcases afterwards_cases envelope (session.applied envelope journal)
      (session.engine.deliver envelope).1 between with ⟨_, plain⟩ | ⟨due, snapshot⟩
    · rw [plain] at failed
      cases failed
    · rw [snapshot] at failed
      cases taken : ((session.applied envelope journal).takeSnapshot between).1 with
      | error reason => exact absurd ⟨due, journal, between, reason, logs, taken⟩ saved
      | ok path =>
        rw [taken] at failed
        cases failed
  · obtain ⟨_, _, run, _, content, _⟩ := apply_of_not_logs logged
    rw [run] at failed
    cases failed
    exact ⟨rfl, content⟩

/-- What succeeds has been logged and has taken effect. -/
theorem applied_of_succeeded (done : session.apply envelope disk = (.ok outcome, later, after)) :
    ∃ between, session.Logs envelope disk later.journal between ∧
      outcome = (session.engine.deliver envelope).1 ∧
      later = session.applied envelope later.journal := by
  by_cases logged : ∃ journal between, session.Logs envelope disk journal between
  · obtain ⟨journal, between, logs⟩ := logged
    rw [apply_of_logs logs] at done
    rcases afterwards_cases envelope (session.applied envelope journal)
      (session.engine.deliver envelope).1 between with ⟨_, plain⟩ | ⟨_, snapshot⟩
    · rw [plain] at done
      cases done
      exact ⟨_, logs, rfl, rfl⟩
    · rw [snapshot] at done
      obtain ⟨taken, same⟩ := Prod.mk.inj done
      obtain ⟨_, _, rfl⟩ := map_eq_ok taken
      cases same
      exact ⟨between, logs, rfl, rfl⟩
  · obtain ⟨_, _, run, _⟩ := apply_of_not_logs logged
    rw [run] at done
    cases done

/-- What has been logged has taken effect, and is answered with its outcome unless a snapshot is
lost. -/
theorem applied_of_logs {journal : Journal} {between : Disk}
    (logs : session.Logs envelope disk journal between) :
    ∃ answer after,
      session.apply envelope disk = (answer, session.applied envelope journal, after) ∧
      (¬ session.SnapshotLost envelope disk → answer = .ok (session.engine.deliver envelope).1) := by
  rw [apply_of_logs logs]
  rcases afterwards_cases envelope (session.applied envelope journal)
    (session.engine.deliver envelope).1 between with ⟨_, plain⟩ | ⟨due, snapshot⟩
  · exact ⟨_, _, plain, fun _ => rfl⟩
  · refine ⟨_, _, snapshot, fun saved => ?_⟩
    cases taken : ((session.applied envelope journal).takeSnapshot between).1 with
    | error failure => exact absurd ⟨due, journal, between, failure, logs, taken⟩ saved
    | ok path => rfl

/-- Where a snapshot is lost, there is a failure, and yet the envelope has taken effect. -/
theorem apply_of_snapshotLost (lost : session.SnapshotLost envelope disk) :
    ∃ failure journal after,
      session.apply envelope disk = (.error failure, session.applied envelope journal, after) := by
  obtain ⟨due, journal, between, failure, logs, failed⟩ := lost
  rw [apply_of_logs logs]
  rcases afterwards_cases envelope (session.applied envelope journal)
    (session.engine.deliver envelope).1 between with ⟨notDue, _⟩ | ⟨_, snapshot⟩
  · rw [show snapshotDue session.settings envelope.sequence = false from notDue] at due
    cases due
  · rw [snapshot, failed]
    exact ⟨failure, journal, _, rfl⟩

/-! ### A request that is submitted again -/

/-- By induction on the attempts, failed ones leave the session and the log as they were. -/
theorem FailsToSubmit.unchanged (failing : FailsToSubmit request session disk later after) :
    later = session ∧ ∀ bytes, disk.tree.content? session.journal.path = some bytes →
      after.tree.content? session.journal.path = some bytes := by
  induction failing with
  | never => exact ⟨rfl, fun _ held => held⟩
  | again failed saved repair rest inductionHypothesis =>
    obtain ⟨rfl, content⟩ := eq_of_failed failed saved
    obtain ⟨same, keeps⟩ := inductionHypothesis
    exact ⟨same, fun bytes held => keeps bytes (repair bytes (content.trans held))⟩

/-- A failure of a session to deliver an envelope or to submit a request leaves the session and the
log as they were, unless a snapshot is lost. A request that has failed in this way any number of
times, and then succeeds, is delivered to the session as it was before the first attempt, and the
log has grown by one frame. Where a snapshot is lost, the caller is told of a failure although the
envelope has taken effect. -/
theorem failure_not_applied (session : Session) :
    (∀ envelope disk failure later after,
      session.apply envelope disk = (.error failure, later, after) →
      ¬ session.SnapshotLost envelope disk →
      later = session ∧
        after.tree.content? session.journal.path = disk.tree.content? session.journal.path) ∧
    (∀ request disk failure later after,
      session.submit request disk = (.error failure, later, after) →
      ¬ session.SnapshotLost (session.next request) disk →
      later = session ∧
        after.tree.content? session.journal.path = disk.tree.content? session.journal.path) ∧
    (∀ request disk later after outcome final last,
      FailsToSubmit request session disk later after →
      later.submit request after = (.ok outcome, final, last) →
      (outcome, final.engine) = session.engine.deliver (session.next request) ∧
      ∃ between,
        session.journal.append after (.ofEnvelope (session.next request)) =
          (.ok (), final.journal, between) ∧
        ∀ bytes, disk.tree.content? session.journal.path = some bytes →
          between.tree.content? session.journal.path =
            some (bytes ++ Frame.write (.ofEnvelope (session.next request)))) ∧
    (∀ envelope disk, session.SnapshotLost envelope disk →
      ∃ failure later after, session.apply envelope disk = (.error failure, later, after) ∧
        later.engine = (session.engine.deliver envelope).2 ∧
        later.engine.lastSequence = session.engine.lastSequence + 1) := by
  refine ⟨fun _ _ _ _ _ => eq_of_failed, fun _ _ _ _ _ => eq_of_failed, ?_, ?_⟩
  · intro request disk later after outcome final last failing done
    obtain ⟨rfl, keeps⟩ := failing.unchanged
    obtain ⟨between, logs, rfl, isApplied⟩ := applied_of_succeeded done
    refine ⟨?_, between, logs.appended, fun bytes held => ?_⟩
    · rw [isApplied]
      rfl
    · obtain ⟨_, _, _, _, content⟩ := Journal.of_append logs.appended
      exact content bytes (keeps bytes held)
  · intro envelope disk lost
    obtain ⟨failure, journal, after, run⟩ := apply_of_snapshotLost lost
    obtain ⟨_, _, _, _, logs, _⟩ := lost
    obtain ⟨next, place, _⟩ := Engine.deliver_of_not_fatal logs.mild
    exact ⟨failure, _, after, run, rfl, place.trans next⟩

/-- A request to issue a token. -/
def issueGold : Request := .issue ⟨"alice", "Gold", "GLD", "100", true⟩

/-- A write that breaks off is tried again. -/
theorem failure_not_applied_issueGold :
    ∃ session started later after outcome final last,
      create {} "s" .empty (.ofTree .empty) = (.ok session, started) ∧
      session.submit issueGold ⟨started.tree, [.cut 5]⟩ = (.error .disk, later, after) ∧
      ¬ session.SnapshotLost (session.next issueGold) ⟨started.tree, [.cut 5]⟩ ∧
      later = session ∧
      later.submit issueGold after = (.ok outcome, final, last) ∧
      (outcome, final.engine) = session.engine.deliver (session.next issueGold) := by
  have observed : (match create {} "s" .empty (.ofTree .empty) with
      | (.ok session, started) =>
        let first := session.submit issueGold ⟨started.tree, [.cut 5]⟩
        let second := first.2.1.submit issueGold first.2.2
        first.1 == .error .disk && second.1.isOk &&
          !snapshotDue session.settings (session.next issueGold).sequence
      | (.error _, _) => false) = true := by
    decide +kernel
  cases created : create {} "s" .empty (.ofTree .empty) with
  | mk result started =>
    rw [created] at observed
    cases result with
    | error failure => cases observed
    | ok session =>
      simp only [Bool.and_eq_true, beq_iff_eq, Bool.not_eq_true'] at observed
      obtain ⟨⟨failed, succeeded⟩, notDue⟩ := observed
      have saved : ¬ session.SnapshotLost (session.next issueGold) ⟨started.tree, [.cut 5]⟩ :=
        fun lost => by
          rw [lost.1] at notDue
          cases notDue
      obtain ⟨_, submitted, again, _⟩ := failure_not_applied session
      have first : session.submit issueGold ⟨started.tree, [.cut 5]⟩ = (.error .disk, _, _) :=
        Prod.ext failed rfl
      have attempted := FailsToSubmit.again first saved (fun _ held => held) (.never _ _)
      cases second : (session.submit issueGold ⟨started.tree, [.cut 5]⟩).2.1.submit issueGold
          (session.submit issueGold ⟨started.tree, [.cut 5]⟩).2.2 with
      | mk outcome rest =>
        rw [second] at succeeded
        cases outcome with
        | error failure => cases succeeded
        | ok outcome =>
          exact ⟨session, started, _, _, outcome, rest.1, rest.2, rfl, first, saved,
            (submitted _ _ _ _ _ first saved).1, second, (again _ _ _ _ _ _ _ attempted second).1⟩

/-- What comes of an attempt to submit a request: the answer, the registered symbols, and the bytes
in the log. -/
structure Attempt where
  answer : Except Failure Outcome
  symbols : Except Failure (List String)
  logged : Option Bytes
  deriving DecidableEq

/-- Submit a request several times. -/
def attempts (session : Session) (request : Request) (disk : Disk) : Nat → List Attempt
  | 0 => []
  | count + 1 =>
    let (answer, later, after) := session.submit request disk
    ⟨answer, later.exportState.map fun state => state.tokens.map Token.symbol,
      after.tree.content? later.journal.path⟩ :: later.attempts request after count

/-- Where a snapshot is due after every envelope and there is a file in the place of their folder,
every attempt fails, and every attempt issues a token. -/
theorem issueGold_fails_and_issues :
    (match create { snapshotInterval := 1 } "s" .empty (.ofTree .empty) with
      | (.ok session, started) =>
        session.attempts issueGold
          ⟨started.tree.put ["ledger_data", "s", "snapshots"] [120], []⟩ 2
      | (.error _, _) => []) =
    [⟨.error .disk, .ok ["GLD-887"],
        some (Frame.writeAll [.ofEnvelope ⟨1, schemaVersion, issueGold⟩])⟩,
      ⟨.error .disk, .ok ["GLD-5C6", "GLD-887"],
        some (Frame.writeAll [.ofEnvelope ⟨1, schemaVersion, issueGold⟩,
          .ofEnvelope ⟨2, schemaVersion, issueGold⟩])⟩] := by
  decide +kernel

end TokenLedger.Session
