/-
This file proves that envelopes are taken once and in order, however they arrive. A stream may repeat
envelopes, leave some out, bring old ones again or mix in other versions, and it is delivered to the
end whatever becomes of each. An envelope that does not follow leaves the engine as it is; one that
follows uses up its place, with a receipt or without. By induction on the stream, the envelopes that
are taken are the ones that follow one another, and the engine comes to what delivering just these
would have come to.
-/

import Mathlib
import TokenLedger.Proofs.Engine.Evolution

namespace TokenLedger

/-! ### Envelopes that follow one another -/

namespace Envelope

/-- An envelope has the accepted version and the place after a given one. -/
def Follows (last : UInt64) (envelope : Envelope) : Prop :=
  envelope.schemaVersion = TokenLedger.schemaVersion ∧ envelope.sequence = last + 1

instance (last : UInt64) (envelope : Envelope) : Decidable (envelope.Follows last) :=
  inferInstanceAs (Decidable (_ ∧ _))

/-- The envelopes of a stream that follow one another from a given place. -/
def inOrder (last : UInt64) : List Envelope → List Envelope
  | [] => []
  | envelope :: rest =>
    if envelope.Follows last then envelope :: inOrder envelope.sequence rest else inOrder last rest

/-- A stream that is out of order: envelopes come twice, too early, too late and in another version,
and one of those that follow asks for a symbol that nobody holds. -/
def disordered : List Envelope :=
  [{ freezeOneToken with sequence := 2 }, freezeOneToken, freezeOneToken,
    { freezeOneToken with sequence := 2, schemaVersion := 7 },
    ⟨2, TokenLedger.schemaVersion, .order .burn ⟨"1", "SLV-000", "bob"⟩⟩,
    { freezeOneToken with sequence := 4 }, { freezeOneToken with sequence := 3 },
    { freezeOneToken with sequence := 1 }]

end Envelope

/-- The envelope came in another version or out of its place. -/
def Outcome.isMisplaced : Outcome → Bool
  | .error (.wrongSchema _ _) | .error (.outOfSequence _ _) => true
  | _ => false

theorem Outcome.isFatal_of_isMisplaced {outcome : Outcome} (misplaced : outcome.isMisplaced = true) :
    outcome.isFatal = true := by
  unfold isMisplaced at misplaced
  split at misplaced
  next => rfl
  next => rfl
  next => cases misplaced

namespace Engine

variable {engine : Engine} {book : Book} {envelope : Envelope}

/-- What becomes of every envelope of a stream. -/
def deliveries (engine : Engine) : List Envelope → List (Envelope × Outcome)
  | [] => []
  | envelope :: rest =>
    (envelope, (engine.deliver envelope).1) :: (engine.deliver envelope).2.deliveries rest

/-- The deliveries of a stream, without those of envelopes that came out of place. -/
def taken (engine : Engine) (envelopes : List Envelope) : List (Envelope × Outcome) :=
  (engine.deliveries envelopes).filter fun delivery => !delivery.2.isMisplaced

theorem map_fst_deliveries (engine : Engine) (envelopes : List Envelope) :
    (engine.deliveries envelopes).map Prod.fst = envelopes := by
  induction envelopes generalizing engine with
  | nil => rfl
  | cons envelope rest inductionHypothesis =>
    rw [deliveries, List.map_cons, inductionHypothesis]

theorem taken_sublist (engine : Engine) (envelopes : List Envelope) :
    ((engine.taken envelopes).map Prod.fst).Sublist envelopes := by
  have picked : ((engine.taken envelopes).map Prod.fst).Sublist
      ((engine.deliveries envelopes).map Prod.fst) := List.filter_sublist.map _
  rwa [map_fst_deliveries] at picked

/-! ### One delivery -/

theorem checkEnvelope_of_follows (initialized : engine.initialized = true)
    (follows : envelope.Follows engine.lastSequence) : engine.checkEnvelope envelope = .ok () := by
  unfold checkEnvelope
  dsimp only
  rw [if_neg (not_not.mpr follows.1), if_neg (not_not.mpr follows.2), initialized]
  rfl

/-- An envelope that follows is taken, whatever becomes of its request. -/
theorem Sound.deliver_of_follows (sound : engine.Sound book)
    (initialized : engine.initialized = true) (follows : envelope.Follows engine.lastSequence) :
    Outcome.isFatal (engine.deliver envelope).1 = false := by
  have accepted := checkEnvelope_of_follows initialized follows
  cases outcome : (engine.deliver envelope).1 with
  | ok receipt => rfl
  | error fault =>
    cases fatal : fault.isFatal with
    | false => exact fatal
    | true =>
      rw [sound.checkEnvelope_of_fatal outcome fatal] at accepted
      cases accepted

/-- Any other envelope comes out of place, and nothing happens. -/
theorem deliver_of_not_follows (misplaced : ¬ envelope.Follows engine.lastSequence) :
    Outcome.isMisplaced (engine.deliver envelope).1 = true ∧
      (engine.deliver envelope).2 = engine := by
  rw [deliver_eq, checkEnvelope]
  by_cases version : envelope.schemaVersion = schemaVersion
  · have place : envelope.sequence ≠ engine.lastSequence + 1 := fun next =>
      misplaced ⟨version, next⟩
    rw [if_neg (not_not.mpr version), if_pos place]
    exact ⟨rfl, rfl⟩
  · rw [if_pos version]
    exact ⟨rfl, rfl⟩

theorem taken_cons_of_follows (sound : engine.Sound book)
    (initialized : engine.initialized = true) (follows : envelope.Follows engine.lastSequence)
    (rest : List Envelope) :
    engine.taken (envelope :: rest) =
      (envelope, (engine.deliver envelope).1) :: (engine.deliver envelope).2.taken rest := by
  have mild := sound.deliver_of_follows initialized follows
  have placed : Outcome.isMisplaced (engine.deliver envelope).1 = false := by
    by_contra misplaced
    rw [Outcome.isFatal_of_isMisplaced (Bool.eq_true_of_not_eq_false misplaced)] at mild
    cases mild
  rw [taken, deliveries, List.filter_cons_of_pos (by rw [placed]; rfl), taken]

theorem taken_cons_of_not_follows (misplaced : ¬ envelope.Follows engine.lastSequence)
    (rest : List Envelope) : engine.taken (envelope :: rest) = engine.taken rest := by
  obtain ⟨refused, unchanged⟩ := deliver_of_not_follows misplaced
  rw [taken, deliveries, List.filter_cons_of_neg (by rw [refused]; simp), unchanged, taken]

/-! ### Streams -/

/-- By induction on the stream, the envelopes that are taken are those that follow one another, and
delivering them alone gives their outcomes and leaves the same engine. -/
theorem Sound.taken_eq (sound : engine.Sound book) (initialized : engine.initialized = true)
    (envelopes : List Envelope) :
    (engine.taken envelopes).map Prod.fst = Envelope.inOrder engine.lastSequence envelopes ∧
      engine.deliverAll ((engine.taken envelopes).map Prod.fst) =
        (.ok ((engine.taken envelopes).map Prod.snd), engine.run envelopes) := by
  induction envelopes generalizing engine book with
  | nil => exact ⟨rfl, rfl⟩
  | cons envelope rest inductionHypothesis =>
    by_cases follows : envelope.Follows engine.lastSequence
    · have mild := sound.deliver_of_follows initialized follows
      obtain ⟨_, place, rules⟩ := deliver_of_not_fatal mild
      obtain ⟨after, later, _⟩ := sound.deliver envelope
      obtain ⟨picked, alone⟩ := inductionHypothesis later (rules.initialized.trans initialized)
      rw [place] at picked
      rw [taken_cons_of_follows sound initialized follows, List.map_cons, List.map_cons,
        deliverAll_cons mild, alone, Envelope.inOrder, if_pos follows, picked]
      exact ⟨rfl, rfl⟩
    · obtain ⟨_, unchanged⟩ := deliver_of_not_follows follows
      have skipped : engine.run (envelope :: rest) = engine.run rest :=
        congrArg (fun engine => Engine.run engine rest) unchanged
      rw [taken_cons_of_not_follows follows, skipped, Envelope.inOrder, if_neg follows]
      exact inductionHypothesis sound initialized

/-- Of a stream that is delivered to the end, the envelopes that are not refused for their version or
place are the ones that follow one another, in the order of the stream. They carry the places right
after the one at which the engine stood, each once, and the engine then stands at the last of them.
Delivering just these, up to a fatal fault, meets none: it gives the same outcomes and leaves the
same engine. -/
theorem stream_taken_in_order (reachable : engine.Reachable)
    (initialized : engine.initialized = true) (envelopes : List Envelope) :
    (engine.taken envelopes).map Prod.fst = Envelope.inOrder engine.lastSequence envelopes ∧
    ((engine.taken envelopes).map Prod.fst).Sublist envelopes ∧
    ((engine.taken envelopes).map fun delivery => delivery.1.sequence) =
      ((List.range (engine.taken envelopes).length).map fun place =>
        engine.lastSequence + UInt64.ofNat (place + 1)) ∧
    (engine.lastSequence.toNat + (engine.taken envelopes).length < UInt64.size →
      ((engine.taken envelopes).map fun delivery => delivery.1.sequence.toNat) =
        List.range' (engine.lastSequence.toNat + 1) (engine.taken envelopes).length) ∧
    (engine.run envelopes).lastSequence =
      engine.lastSequence + UInt64.ofNat (engine.taken envelopes).length ∧
    engine.deliverAll ((engine.taken envelopes).map Prod.fst) =
      (.ok ((engine.taken envelopes).map Prod.snd), engine.run envelopes) := by
  obtain ⟨book, sound⟩ := reachable.sound
  obtain ⟨picked, alone⟩ := sound.taken_eq initialized envelopes
  obtain ⟨numbered, place, _⟩ := deliverAll_eq_ok alone
  have count : ((engine.taken envelopes).map Prod.fst).length = (engine.taken envelopes).length :=
    List.length_map _
  refine ⟨picked, taken_sublist engine envelopes, ?_, fun enough => ?_, ?_, alone⟩
  · have places := numbered.map_eq
    rwa [count, List.map_map] at places
  · have places := numbered.map_toNat (count.symm ▸ enough)
    rwa [count, List.map_map] at places
  · rw [place, numbered.last, count]

theorem stream_taken_in_order_disordered :
    oneToken.Reachable ∧ oneToken.initialized = true ∧
      (oneToken.taken Envelope.disordered).map Prod.fst =
        [.freezeOneToken,
          ⟨2, TokenLedger.schemaVersion, .order .burn ⟨"1", "SLV-000", "bob"⟩⟩,
          { Envelope.freezeOneToken with sequence := 3 }] := by
  have inOrder := (stream_taken_in_order oneToken_reachable oneToken_initialized
    Envelope.disordered).1
  rw [oneToken_lastSequence] at inOrder
  exact ⟨oneToken_reachable, oneToken_initialized, inOrder.trans (by decide)⟩

end Engine

end TokenLedger
