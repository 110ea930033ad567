/-
This file proves what delivering envelopes in a row comes to when none of them is fatal: they are
numbered in order from the place at which the engine stands, and the engine then stands at the last
of them, under the rules that it had before. A row can be delivered in two parts. The state of an
engine, restored with its place and its number of proposals, gives back the engine itself, so that
the second part can also be delivered after restoring what the first part has come to.
-/

import Mathlib
import TokenLedger.Proofs.Data.Ordering
import TokenLedger.Proofs.Engine.Bisimulation
import TokenLedger.Proofs.Engine.Canonical

namespace TokenLedger.Engine

variable {engine between after : Engine} {book : Book} {envelope : Envelope}
  {earlier envelopes : List Envelope} {outcomes : List Outcome}

/-! ### One delivery -/

/-- Two engines go by the same rules, and both or neither have loaded a genesis state. -/
structure SameRules (engine after : Engine) : Prop where
  setup : after.setup = engine.setup
  candidate : after.generator.candidate = engine.generator.candidate
  initialized : after.initialized = engine.initialized

theorem SameRules.refl (engine : Engine) : engine.SameRules engine :=
  ⟨rfl, rfl, rfl⟩

theorem SameRules.trans (first : engine.SameRules between) (second : between.SameRules after) :
    engine.SameRules after :=
  ⟨second.setup.trans first.setup, second.candidate.trans first.candidate,
    second.initialized.trans first.initialized⟩

/-- An envelope is not accepted for a fatal fault only. -/
theorem isFatal_of_checkEnvelope {fault : Fault}
    (refused : engine.checkEnvelope envelope = .error fault) : fault.isFatal = true := by
  unfold checkEnvelope at refused
  dsimp only at refused
  split at refused
  next =>
    cases refused
    rfl
  next =>
    split at refused
    next =>
      cases refused
      rfl
    next =>
      split at refused
      next =>
        cases refused
        rfl
      next => cases refused

theorem sequence_of_checkEnvelope (accepted : engine.checkEnvelope envelope = .ok ()) :
    envelope.sequence = engine.lastSequence + 1 := by
  unfold checkEnvelope at accepted
  dsimp only at accepted
  simp only [ite_error_eq_ok_iff, not_not] at accepted
  exact accepted.2.1

theorem sameRules_settle (sequence : UInt64) (outcome : Outcome) {work : Work}
    (within : work.Within engine) :
    engine.SameRules (engine.settle sequence outcome work) ∧
      (engine.settle sequence outcome work).lastSequence = sequence := by
  cases outcome with
  | error fault =>
    rw [settle_error within]
    exact ⟨⟨rfl, rfl, rfl⟩, rfl⟩
  | ok receipt =>
    rw [settle_ok within]
    exact ⟨⟨rfl, within.candidate, rfl⟩, rfl⟩

/-- A delivery that is not fatal uses up the next place in the sequence. -/
theorem deliver_of_not_fatal (mild : Outcome.isFatal (engine.deliver envelope).1 = false) :
    envelope.sequence = engine.lastSequence + 1 ∧
      (engine.deliver envelope).2.lastSequence = envelope.sequence ∧
      engine.SameRules (engine.deliver envelope).2 := by
  cases accepted : engine.checkEnvelope envelope with
  | error fault =>
    rw [deliver_eq, accepted] at mild
    exact absurd (isFatal_of_checkEnvelope accepted) (Bool.eq_false_iff.mp mild)
  | ok _ =>
    have settled := sameRules_settle envelope.sequence (engine.attempted envelope.request).1
      (engine.attempted_within envelope.request)
    rw [deliver_eq, accepted] at mild ⊢
    dsimp only at mild ⊢
    split at mild
    next fatal => exact absurd fatal (Bool.eq_false_iff.mp mild)
    next notFatal =>
      rw [if_neg notFatal]
      exact ⟨sequence_of_checkEnvelope accepted, settled.2, settled.1⟩

/-- A request that is refused for a fault that is not fatal is refused by the book, and uses up its
place in the sequence. -/
theorem Sound.post_of_refused (sound : engine.Sound book) {fault : Fault}
    (refused : (engine.deliver envelope).1 = .error fault) (mild : fault.isFatal = false) :
    book.post engine.setup.params engine.generator.candidate engine.generator.nonce
        envelope.request = .error fault ∧
      (engine.deliver envelope).2 = { engine with lastSequence := envelope.sequence } := by
  cases accepted : engine.checkEnvelope envelope with
  | error other =>
    rw [deliver_eq, accepted] at refused
    obtain rfl : other = fault := Except.error.inj refused
    exact absurd (isFatal_of_checkEnvelope accepted) (Bool.eq_false_iff.mp mild)
  | ok _ =>
    have names := sound.named (initialized_of_checkEnvelope accepted)
    have delivered := sound.kept.deliver sound.complete names accepted
    cases posted : book.post engine.setup.params engine.generator.candidate
        engine.generator.nonce envelope.request with
    | ok result =>
      rw [posted] at delivered
      rw [delivered] at refused
      cases refused
    | error other =>
      rw [posted] at delivered
      rw [delivered] at refused ⊢
      exact ⟨congrArg Except.error (Except.error.inj refused), rfl⟩

/-- A fatal delivery changes nothing. -/
theorem deliver_of_fatal (fatal : Outcome.isFatal (engine.deliver envelope).1 = true) :
    (engine.deliver envelope).2 = engine := by
  cases accepted : engine.checkEnvelope envelope with
  | error fault => rw [deliver_eq, accepted]
  | ok _ =>
    rw [deliver_eq, accepted] at fatal ⊢
    dsimp only at fatal ⊢
    by_cases isFatal : Outcome.isFatal (engine.attempted envelope.request).1 = true
    · rw [if_pos isFatal]
    · rw [if_neg isFatal] at fatal
      exact absurd fatal isFatal

/-- A caller who is asked about an outcome decides whether the delivery has happened. -/
theorem deliverThen_of_deliver {m : Type → Type} [Monad m] {ε : Type} (engine : Engine)
    (envelope : Envelope) (persist : Outcome → m (Except ε Unit)) :
    engine.deliverThen envelope persist =
      if Outcome.isFatal (engine.deliver envelope).1 then
        pure (.ok (engine.deliver envelope).1, engine)
      else
        persist (engine.deliver envelope).1 >>= fun answer =>
          match answer with
          | .error refusal => pure (.error refusal, engine)
          | .ok () => pure (.ok (engine.deliver envelope).1, (engine.deliver envelope).2) := by
  rw [deliverThen_eq, deliver_eq]
  cases accepted : engine.checkEnvelope envelope with
  | error fault =>
    have fatal : Outcome.isFatal (.error fault) = true := isFatal_of_checkEnvelope accepted
    dsimp only
    rw [if_pos fatal]
  | ok _ =>
    dsimp only
    by_cases fatal : Outcome.isFatal (engine.attempted envelope.request).1 = true
    · simp only [if_pos fatal]
    · rewrite [if_neg fatal, if_neg fatal, if_neg fatal]
      rfl

/-! ### Deliveries in a row -/

/-- The first of a row is delivered before the others, unless it is fatal. -/
theorem deliverAll_cons (mild : Outcome.isFatal (engine.deliver envelope).1 = false)
    (rest : List Envelope) :
    engine.deliverAll (envelope :: rest) =
      (((engine.deliver envelope).2.deliverAll rest).1.map ((engine.deliver envelope).1 :: ·),
        ((engine.deliver envelope).2.deliverAll rest).2) := by
  rw [deliverAll]
  cases delivered : engine.deliver envelope with
  | mk outcome between =>
    rw [delivered] at mild
    cases outcome with
    | ok receipt => rfl
    | error fault =>
      have notFatal : ¬ fault.isFatal = true := Bool.eq_false_iff.mp mild
      simp only [if_neg notFatal]

/-- A fatal one ends the row. -/
theorem deliverAll_cons_of_fatal (fatal : Outcome.isFatal (engine.deliver envelope).1 = true)
    (rest : List Envelope) :
    ∃ fault, (engine.deliver envelope).1 = .error fault ∧
      engine.deliverAll (envelope :: rest) = (.error fault, engine) := by
  have unchanged := deliver_of_fatal fatal
  rw [deliverAll]
  cases delivered : engine.deliver envelope with
  | mk outcome between =>
    rw [delivered] at fatal unchanged
    cases outcome with
    | ok receipt => cases fatal
    | error fault =>
      have isFatal : fault.isFatal = true := fatal
      refine ⟨fault, rfl, ?_⟩
      simp only [if_pos isFatal, ← unchanged]

theorem deliverAll_cons_eq_ok
    (run : engine.deliverAll (envelope :: earlier) = (.ok outcomes, after)) :
    Outcome.isFatal (engine.deliver envelope).1 = false ∧
      ∃ others, outcomes = (engine.deliver envelope).1 :: others ∧
        (engine.deliver envelope).2.deliverAll earlier = (.ok others, after) := by
  cases mild : Outcome.isFatal (engine.deliver envelope).1 with
  | true =>
    obtain ⟨fault, _, ended⟩ := deliverAll_cons_of_fatal mild earlier
    rw [ended] at run
    cases run
  | false =>
    rw [deliverAll_cons mild] at run
    refine ⟨rfl, ?_⟩
    cases rest : (engine.deliver envelope).2.deliverAll earlier with
    | mk result last =>
      rw [rest] at run
      cases result with
      | error fault => cases run
      | ok others =>
        obtain ⟨same, rfl⟩ := Prod.mk.inj run
        exact ⟨others, (Except.ok.inj same).symm, rfl⟩

/-- By induction on the row: the envelopes are numbered in order from the place at which the engine
stands, and afterwards it stands at the last of them. -/
theorem deliverAll_eq_ok (run : engine.deliverAll envelopes = (.ok outcomes, after)) :
    Numbered Envelope.sequence engine.lastSequence envelopes ∧
      after.lastSequence = (envelopes.getLast?.map Envelope.sequence).getD engine.lastSequence ∧
      engine.SameRules after := by
  induction envelopes generalizing engine outcomes with
  | nil =>
    obtain ⟨_, rfl⟩ := Prod.mk.inj run
    exact ⟨trivial, rfl, .refl engine⟩
  | cons envelope rest inductionHypothesis =>
    obtain ⟨mild, others, _, further⟩ := deliverAll_cons_eq_ok run
    obtain ⟨next, place, rules⟩ := deliver_of_not_fatal mild
    obtain ⟨numbered, last, laterRules⟩ := inductionHypothesis further
    rw [place] at numbered last
    refine ⟨⟨next, numbered⟩, last.trans ?_, rules.trans laterRules⟩
    cases rest with
    | nil => rfl
    | cons second others => rfl

theorem Sound.deliverAll (sound : engine.Sound book) (envelopes : List Envelope) :
    ∃ after, (engine.deliverAll envelopes).2.Sound after := by
  induction envelopes generalizing engine book with
  | nil => exact ⟨book, sound⟩
  | cons envelope rest inductionHypothesis =>
    obtain ⟨next, delivered, _⟩ := sound.deliver envelope
    cases mild : Outcome.isFatal (engine.deliver envelope).1 with
    | true =>
      obtain ⟨fault, _, ended⟩ := deliverAll_cons_of_fatal mild rest
      rw [ended]
      exact ⟨book, sound⟩
    | false =>
      rw [deliverAll_cons mild]
      exact inductionHypothesis delivered

/-- A row can be delivered in two parts. -/
theorem deliverAll_append (run : engine.deliverAll earlier = (.ok outcomes, between))
    (later : List Envelope) :
    engine.deliverAll (earlier ++ later) =
      ((between.deliverAll later).1.map (outcomes ++ ·), (between.deliverAll later).2) := by
  induction earlier generalizing engine outcomes with
  | nil =>
    obtain ⟨none, rfl⟩ := Prod.mk.inj run
    obtain rfl := Except.ok.inj none
    rw [List.nil_append]
    cases engine.deliverAll later with
    | mk result after =>
      cases result <;> rfl
  | cons envelope rest inductionHypothesis =>
    obtain ⟨mild, others, rfl, further⟩ := deliverAll_cons_eq_ok run
    rw [List.cons_append, deliverAll_cons mild, inductionHypothesis further]
    cases between.deliverAll later with
    | mk result after =>
      cases result <;> rfl

/-! ### Restoring in between -/

/-- The state of an engine, restored with its place and its number of proposals, gives back the
engine. -/
theorem Sound.restore_exported (sound : engine.Sound book) (initialized : engine.initialized = true)
    {generator : SymbolGenerator} (proposals : generator.candidate = engine.generator.candidate) :
    (new engine.setup generator).restore book.records engine.lastSequence engine.generator.nonce =
      (.ok (), engine) := by
  have resumed : generator.resume engine.generator.nonce = engine.generator := by
    rw [SymbolGenerator.resume, proposals]
  rw [restore_records sound.complete (sound.named initialized), resumed, ← sound.kept,
    ← initialized]

end TokenLedger.Engine
