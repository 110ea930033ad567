/-
This file proves that a symbol for which no free proposal was found stays without one. The proposals
that an issuance looks at depend on the requested symbol and on the number of proposals made before,
and whether one is free depends on the symbols that are registered. Only an issuance with a receipt
changes either of the two, since every refusal takes back the proposals that were made for it. By
induction on the envelopes, a run that issues nothing leaves both as they are, and then whoever asks
for the symbol gets the same refusal.
-/

import Mathlib
import TokenLedger.Proofs.Engine.Issuance
import TokenLedger.Proofs.Engine.Specification
import TokenLedger.Proofs.Ledger.Independence

namespace TokenLedger

/-! ### Proposals that are looked at -/

namespace Book

variable {params : Params} {candidate : UInt64 → String → String} {nonce : UInt64}
  {book after : Book} {terms : Issuance}

/-- None of the proposals that an issuance would look at is free. -/
def Exhausted (params : Params) (candidate : UInt64 → String → String) (nonce : UInt64)
    (requested : String) (book : Book) : Prop :=
  book.firstFree? candidate nonce requested (attempts params).toNat = none

/-- Which proposals are free depends on the registered symbols only. -/
theorem Exhausted.of_registered
    (same : ∀ symbol, after.tokens.contains symbol = book.tokens.contains symbol)
    {requested : String} (exhausted : book.Exhausted params candidate nonce requested) :
    after.Exhausted params candidate nonce requested := by
  have free : after.isFree = book.isFree := funext fun symbol => by rw [isFree, isFree, same]
  rw [Exhausted, firstFree?] at exhausted ⊢
  rw [free]
  exact exhausted

/-- Without a free proposal every issuance is refused, whatever else its terms are. -/
theorem Exhausted.post_eq (exhausted : book.Exhausted params candidate nonce terms.symbol)
    (valid : terms.validate = .ok ()) :
    book.post params candidate nonce (.issue terms) =
      .error (.noFreeSymbol terms.symbol (attempts params)) := by
  obtain ⟨_, complete⟩ := ite_error_eq_ok_iff.mp valid
  obtain ⟨_, complete⟩ := ite_error_eq_ok_iff.mp complete
  obtain ⟨amount, parsed, _⟩ := bind_eq_ok complete
  rw [Exhausted] at exhausted
  rw [post_issue _ _ _ book valid, issue, parsed, exhausted]
  rfl

/-- An issuance is refused in this way for want of a free proposal only. -/
theorem exhausted_of_post {requested : String} {count : UInt32}
    (refused : book.post params candidate nonce (.issue terms) =
      .error (.noFreeSymbol requested count)) :
    requested = terms.symbol ∧ count = attempts params ∧
      book.Exhausted params candidate nonce terms.symbol := by
  have causes : FailsOnlyWith
      (fun fault => fault = .noFreeSymbol requested count → requested = terms.symbol ∧
        count = attempts params ∧ book.Exhausted params candidate nonce terms.symbol)
      (book.post params candidate nonce (.issue terms)) := by
    refine FailsOnlyWith.bind ?_ fun _ => FailsOnlyWith.bind (.mapError nofun) fun amount => ?_
    · exact .ite (.error nofun) (.ite (.error nofun) (.bind (.mapError nofun) fun _ => .ok ()))
    · split
      next found =>
        refine .error fun same => ?_
        cases same
        exact ⟨rfl, rfl, found⟩
      next => exact .ite (.error nofun) (.ok _)
  exact causes _ refused rfl

end Book

namespace Engine

variable {engine : Engine} {book : Book} {envelope : Envelope}

/-! ### Deliveries that issue nothing -/

/-- A delivery that issues nothing leaves the same symbols registered, and as many proposals made. -/
theorem Sound.deliver_idle (sound : engine.Sound book)
    (nothing : envelope.request.issued? (engine.deliver envelope).1 = none) :
    (engine.deliver envelope).2.generator = engine.generator := by
  rcases sound.deliver_cases envelope with
    ⟨fault, place, refused⟩ | ⟨receipt, after, next, posted, delivered⟩
  · rw [refused]
  · rw [delivered] at nothing ⊢
    cases request : envelope.request with
    | issue terms =>
      rw [request] at nothing
      cases nothing
    | order kind terms =>
      rw [request] at posted
      rw [posted.nonce_eq]

/-- By induction on the envelopes, a run that issues nothing makes no proposals that last. -/
theorem Sound.run_idle (sound : engine.Sound book) {envelopes : List Envelope}
    (nothing : engine.issuances envelopes = []) :
    (engine.run envelopes).generator = engine.generator := by
  induction envelopes generalizing engine book with
  | nil => rfl
  | cons envelope rest inductionHypothesis =>
    obtain ⟨first, others⟩ := List.append_eq_nil_iff.mp nothing
    obtain ⟨between, later, _⟩ := sound.deliver envelope
    exact (inductionHypothesis later others).trans
      (sound.deliver_idle (Option.toList_eq_nil_iff.mp first))

/-- A run that issues nothing leaves a book in which the same proposals are free. -/
theorem Sound.run_exhausted (sound : engine.Sound book) {requested : String}
    (exhausted : book.Exhausted engine.setup.params engine.generator.candidate
      engine.generator.nonce requested)
    {envelopes : List Envelope} (nothing : engine.issuances envelopes = []) :
    ∃ after, (engine.run envelopes).Sound after ∧
      after.Exhausted (engine.run envelopes).setup.params
        (engine.run envelopes).generator.candidate (engine.run envelopes).generator.nonce
        requested := by
  obtain ⟨after, later, registers⟩ := sound.run_registers envelopes
  refine ⟨after, later, ?_⟩
  rw [sound.run_idle nothing, (sameRules_run engine envelopes).setup]
  refine exhausted.of_registered fun symbol => Bool.eq_iff_iff.mpr ?_
  rw [registers.symbols, nothing, List.map_nil]
  simp

/-- A delivery that is refused in this way has posted an issuance. -/
theorem Sound.exhausted_of_deliver (sound : engine.Sound book) {terms : Issuance}
    (asks : envelope.request = .issue terms) {requested : String} {count : UInt32}
    (refused : (engine.deliver envelope).1 = .error (.noFreeSymbol requested count)) :
    requested = terms.symbol ∧ count = Book.attempts engine.setup.params ∧
      book.Exhausted engine.setup.params engine.generator.candidate engine.generator.nonce
        terms.symbol ∧
      (engine.deliver envelope).2 = { engine with lastSequence := envelope.sequence } := by
  obtain ⟨posted, after⟩ := sound.post_of_refused refused rfl
  rw [asks] at posted
  obtain ⟨symbol, attempted, exhausted⟩ := Book.exhausted_of_post posted
  exact ⟨symbol, attempted, exhausted, after⟩

/-- Without a free proposal, an accepted issuance only uses up its place in the sequence. -/
theorem Sound.deliver_of_exhausted (sound : engine.Sound book) {terms : Issuance}
    (accepted : engine.checkEnvelope envelope = .ok ())
    (asks : envelope.request = .issue terms) (valid : terms.validate = .ok ())
    (exhausted : book.Exhausted engine.setup.params engine.generator.candidate
      engine.generator.nonce terms.symbol) :
    engine.deliver envelope =
      (.error (.noFreeSymbol terms.symbol (Book.attempts engine.setup.params)),
        { engine with lastSequence := envelope.sequence }) := by
  have names := sound.named (initialized_of_checkEnvelope accepted)
  rw [sound.kept.deliver sound.complete names accepted, asks, exhausted.post_eq valid]

/-- Once an issuance has been refused for want of a free proposal, it stays so as long as nothing is
issued: after any such run, whoever asks for the same symbol, under whatever name, supply and flag,
gets the same refusal, which uses up the envelope's place in the sequence and nothing else. -/
theorem exhausted_symbol_stays (reachable : engine.Reachable) {terms : Issuance}
    (asks : envelope.request = .issue terms) {requested : String} {count : UInt32}
    (refused : (engine.deliver envelope).1 = .error (.noFreeSymbol requested count))
    {envelopes : List Envelope}
    (nothing : (engine.deliver envelope).2.issuances envelopes = []) :
    ∀ (later : Envelope) (other : Issuance), later.request = .issue other →
      other.symbol = terms.symbol → other.validate = .ok () →
      ((engine.deliver envelope).2.run envelopes).checkEnvelope later = .ok () →
      ((engine.deliver envelope).2.run envelopes).deliver later =
        (.error (.noFreeSymbol requested count),
          { (engine.deliver envelope).2.run envelopes with lastSequence := later.sequence }) := by
  obtain ⟨book, sound⟩ := reachable.sound
  obtain ⟨rfl, rfl, exhausted, after⟩ := sound.exhausted_of_deliver asks refused
  rw [after] at nothing ⊢
  obtain ⟨last, run, still⟩ :=
    (sound.withPlace envelope.sequence).run_exhausted exhausted nothing
  have rules := sameRules_run { engine with lastSequence := envelope.sequence } envelopes
  have attempted := congrArg (fun setup => Book.attempts setup.params) rules.setup
  intro later other asksAgain same valid accepted
  rw [← same] at still
  rw [run.deliver_of_exhausted accepted asksAgain valid still, attempted, same]

/-- The engine has one token, and its generator proposes no symbol but that of the token. -/
def onlyTaken : Engine :=
  ((new ⟨.proto, {}⟩ (.ofList ["GLD-1A2"])).initGenesis .oneToken).2

theorem exhausted_symbol_stays_onlyTaken :
    onlyTaken.Reachable ∧
      (onlyTaken.deliver .issueToken).1 = .error (.noFreeSymbol "GLD" 8) ∧
      (onlyTaken.deliver .issueToken).2.issuances [{ Envelope.freezeOneToken with sequence := 2 }] =
        [] ∧
      (((onlyTaken.deliver .issueToken).2.run
          [{ Envelope.freezeOneToken with sequence := 2 }]).deliver
        ⟨3, schemaVersion, .issue ⟨"bob", "Other", "GLD", "0", false⟩⟩).1 =
          .error (.noFreeSymbol "GLD" 8) := by
  have reachable : onlyTaken.Reachable := by
    rw [onlyTaken]
    exact .initGenesis (.new _ _) _
  have refused : (onlyTaken.deliver .issueToken).1 = .error (.noFreeSymbol "GLD" 8) := by
    decide +kernel
  have nothing : (onlyTaken.deliver .issueToken).2.issuances
      [{ Envelope.freezeOneToken with sequence := 2 }] = [] := by
    decide +kernel
  have asks : Envelope.issueToken.request = .issue ⟨"alice", "Gold", "GLD", "100", true⟩ := rfl
  have stays := exhausted_symbol_stays reachable asks refused nothing
    ⟨3, schemaVersion, .issue ⟨"bob", "Other", "GLD", "0", false⟩⟩ _ rfl rfl (by decide)
    (by decide +kernel)
  exact ⟨reachable, refused, nothing, congrArg Prod.fst stays⟩

end Engine

end TokenLedger
