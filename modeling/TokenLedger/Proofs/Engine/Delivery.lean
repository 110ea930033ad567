/-
This file proves that a delivery is all or nothing. An envelope that is not accepted, a fatal fault
and an outcome that the caller refuses leave the engine exactly as it was, whatever a request has
written by then and however many symbols have been proposed for it; any other fault uses up the
envelope's place in the sequence and nothing else; and after a receipt the stores are what the
request was seen to leave when its records were checked. The caller is asked once, about the outcome
that is then returned, or not at all.
-/

import Mathlib
import TokenLedger.Proofs.Engine.Steps

namespace TokenLedger.Engine

open Step

/-! ### What a request comes to -/

/-- The outcome of a request, and the work that it leaves. -/
def attempted (engine : Engine) (request : Request) : Outcome × Work :=
  exec (attempt engine.setup request) engine.work

theorem attempted_within (engine : Engine) (request : Request) :
    (engine.attempted request).2.Within engine :=
  engine.stays_attempt engine.setup request engine.work engine.work_within

/-- A receipt is given only for work whose records have been checked. -/
theorem checkRecords_of_exec_attempt {setup : Setup} {request : Request} {receipt : Receipt}
    {work after : Work} (run : exec (attempt setup request) work = (.ok receipt, after)) :
    checkRecords setup.format after.tokens after.accounts = .ok () := by
  obtain ⟨_, _, _, run⟩ := exec_bind_eq_ok run
  obtain ⟨_, between, _, run⟩ := exec_bind_eq_ok run
  obtain ⟨_, _, looked, run⟩ := exec_bind_eq_ok run
  cases looked
  obtain ⟨⟨⟩, _, checked, run⟩ := exec_bind_eq_ok run
  obtain ⟨passed, rfl⟩ := Prod.mk.inj checked
  cases run
  exact passed

/-! ### Undoing and committing the work -/

/-- The stores after all pending writes. -/
def written (work : Work) : LedgerStore := ⟨work.tokens.view, work.accounts.view⟩

theorem settle_error {engine : Engine} {work : Work} (within : work.Within engine)
    (sequence : UInt64) (fault : Fault) :
    engine.settle sequence (.error fault) work = { engine with lastSequence := sequence } := by
  rw [settle, within.undo]

theorem settle_ok {engine : Engine} {work : Work} (within : work.Within engine)
    (sequence : UInt64) (receipt : Receipt) :
    engine.settle sequence (.ok receipt) work =
      { engine with
        store := written work
        generator := work.generator
        lastSequence := sequence } := by
  rw [settle, Scope.commit, within.tokens.commit_base, within.accounts.commit_base, written]

/-- A delivery either gives its outcome at once, or puts it before the caller and goes on from the
answer. -/
theorem deliverThen_eq {m : Type → Type} [Monad m] {ε : Type} (engine : Engine)
    (envelope : Envelope) (persist : Outcome → m (Except ε Unit)) :
    engine.deliverThen envelope persist =
      match engine.checkEnvelope envelope with
      | .error fault => pure (.ok (.error fault), engine)
      | .ok () =>
        if Outcome.isFatal (engine.attempted envelope.request).1 then
          pure (.ok (engine.attempted envelope.request).1, engine)
        else
          persist (engine.attempted envelope.request).1 >>= fun answer =>
            match answer with
            | .error refusal => pure (.error refusal, engine)
            | .ok () =>
              pure (.ok (engine.attempted envelope.request).1,
                engine.settle envelope.sequence (engine.attempted envelope.request).1
                  (engine.attempted envelope.request).2) := by
  have undone : engine.undo (exec (attempt engine.setup envelope.request) engine.work).2 = engine :=
    (engine.attempted_within envelope.request).undo
  unfold deliverThen attempted
  cases engine.checkEnvelope envelope with
  | error fault => rfl
  | ok accepted =>
    have ran : (attempt engine.setup envelope.request).run.run engine.work =
        exec (attempt engine.setup envelope.request) engine.work := rfl
    simp only [ran]
    rewrite [undone]
    rfl

/-- Delivering is delivering for a caller who agrees to every outcome. -/
theorem deliver_eq (engine : Engine) (envelope : Envelope) :
    engine.deliver envelope =
      match engine.checkEnvelope envelope with
      | .error fault => (.error fault, engine)
      | .ok () =>
        if Outcome.isFatal (engine.attempted envelope.request).1 then
          ((engine.attempted envelope.request).1, engine)
        else
          ((engine.attempted envelope.request).1,
            engine.settle envelope.sequence (engine.attempted envelope.request).1
              (engine.attempted envelope.request).2) := by
  rw [deliver, deliverThen_eq]
  cases engine.checkEnvelope envelope with
  | error fault => rfl
  | ok accepted =>
    by_cases fatal : Outcome.isFatal (engine.attempted envelope.request).1 = true
    · simp only [if_pos fatal]
      rfl
    · simp only [if_neg fatal]
      rfl

/-- Whatever the caller answers, the engine is left as it was or as the delivery leaves it. -/
theorem deliverThen_engine {ε : Type} (engine : Engine) (envelope : Envelope)
    (persist : Outcome → Id (Except ε Unit)) :
    (engine.deliverThen envelope persist).2 = engine ∨
      (engine.deliverThen envelope persist).2 = (engine.deliver envelope).2 := by
  rw [deliverThen_eq, deliver_eq]
  cases engine.checkEnvelope envelope with
  | error fault => exact .inl rfl
  | ok accepted =>
    dsimp only
    split
    next => exact .inl rfl
    next =>
      show (match persist (engine.attempted envelope.request).1 with
        | .error refusal => (.error refusal, engine)
        | .ok () => _ : Except ε Outcome × Engine).2 = engine ∨ _
      cases persist (engine.attempted envelope.request).1 with
      | error refusal => exact .inl rfl
      | ok _ => exact .inr rfl

/-! ### All or nothing -/

section Listing

variable {σ ε : Type}

/-- A caller who also lists the outcomes that it is asked about. -/
def listing (persist : Outcome → StateM σ (Except ε Unit)) (outcome : Outcome) :
    StateM (σ × List Outcome) (Except ε Unit) := fun (state, asked) =>
  let (answer, state) := (persist outcome).run state
  (answer, (state, asked ++ [outcome]))

/-- A delivery whose envelope is refused or whose outcome is fatal asks nothing and changes nothing.
Any other asks once, about the outcome that it then returns. If the caller refuses, nothing has
changed; after a fault the place in the sequence is used up; and after a receipt the stores are the
views of the work whose records have been checked. -/
theorem deliverThen_all_or_nothing (engine : Engine) (envelope : Envelope)
    (persist : Outcome → StateM σ (Except ε Unit)) (state : σ) (asked : List Outcome) :
    (∀ fault, engine.checkEnvelope envelope = .error fault →
      (engine.deliverThen envelope (listing persist)).run (state, asked) =
        ((.ok (.error fault), engine), (state, asked))) ∧
    (engine.checkEnvelope envelope = .ok () →
      ∃ outcome work, engine.attempted envelope.request = (outcome, work) ∧
        (Outcome.isFatal outcome = true →
          (engine.deliverThen envelope (listing persist)).run (state, asked) =
            ((.ok outcome, engine), (state, asked))) ∧
        (Outcome.isFatal outcome = false →
          ∀ answer later, (persist outcome).run state = (answer, later) →
            ∃ result after,
              (engine.deliverThen envelope (listing persist)).run (state, asked) =
                ((result, after), (later, asked ++ [outcome])) ∧
              match answer with
              | .error refusal => result = .error refusal ∧ after = engine
              | .ok () =>
                result = .ok outcome ∧
                match outcome with
                | .error _ => after = { engine with lastSequence := envelope.sequence }
                | .ok _ =>
                  checkRecords engine.setup.format work.tokens work.accounts = .ok () ∧
                  work.generator.candidate = engine.generator.candidate ∧
                  after =
                    { engine with
                      store := ⟨work.tokens.view, work.accounts.view⟩
                      generator := work.generator
                      lastSequence := envelope.sequence })) := by
  have within := engine.attempted_within envelope.request
  rw [deliverThen_eq]
  constructor
  · intro fault refused
    rw [refused]
    rfl
  · intro accepted
    rw [accepted]
    cases attempted : engine.attempted envelope.request with
    | mk outcome work =>
      rw [attempted] at within
      refine ⟨outcome, work, rfl, fun fatal => ?_, fun notFatal answer later answered => ?_⟩
      · simp only [fatal, if_true]
        rfl
      · have asking : (listing persist outcome).run (state, asked) =
            (pure (answer, (later, asked ++ [outcome])) : Id _) := by
          show listing persist outcome (state, asked) = _
          rw [listing, answered]
          rfl
        simp only [notFatal, Bool.false_eq_true, if_false]
        rw [StateT.run_bind, asking, pure_bind]
        cases answer with
        | error refusal => exact ⟨.error refusal, engine, rfl, rfl, rfl⟩
        | ok _ =>
          refine ⟨.ok outcome, engine.settle envelope.sequence outcome work, rfl, rfl, ?_⟩
          cases outcome with
          | error fault => exact settle_error within envelope.sequence fault
          | ok receipt =>
            exact ⟨checkRecords_of_exec_attempt attempted, within.candidate,
              settle_ok within envelope.sequence receipt⟩

end Listing

end TokenLedger.Engine
