/-
This file proves that a move between the two buckets of an account can be taken back: the opposite
move of the same amount succeeds and restores what was there, first for an account and then for an
engine that has given a receipt for the move. The engine is then what it was before the two
deliveries, down to the bytes of its stores, except that two places in the sequence are used up.
-/

import Mathlib
import TokenLedger.Proofs.Engine.Commutation

namespace TokenLedger

namespace Engine

variable {engine between : Engine} {book : Book} {envelope : Envelope} {receipt : Receipt}
  {move : Move} {terms : Order}

/-- A receipt is given only after a genesis state has been loaded. -/
theorem initialized_of_receipt (delivered : engine.deliver envelope = (.ok receipt, between)) :
    engine.initialized = true := by
  cases accepted : engine.checkEnvelope envelope with
  | ok _ => exact initialized_of_checkEnvelope accepted
  | error fault =>
    rw [deliver_eq, accepted] at delivered
    cases delivered

/-- After a move that was delivered with a receipt, the opposite move of the same terms is delivered
with a receipt, and only the place in the sequence tells the engine from what it was. -/
theorem Sound.deliver_opposite (sound : engine.Sound book)
    (ordered : envelope.request = .order move.kind terms)
    (delivered : engine.deliver envelope = (.ok receipt, between)) :
    ∃ back, between.deliver (placed (between.lastSequence + 1) (.order move.opposite.kind terms)) =
      (.ok back, { engine with lastSequence := between.lastSequence + 1 }) := by
  have initialized := initialized_of_receipt delivered
  rcases sound.deliver_cases envelope with
    ⟨fault, place, refused⟩ | ⟨_, after, next, posted, posting⟩
  · rw [refused] at delivered
    cases delivered
  · rw [posting] at delivered
    obtain ⟨_, rfl⟩ := Prod.mk.inj delivered
    rw [ordered] at posted
    obtain rfl : next = engine.generator.nonce := posted.nonce_eq
    obtain ⟨back, reversed⟩ := sound.complete.post_opposite posted
    refine ⟨back, ?_⟩
    rw [(sound.withPosted posted envelope.sequence).deliver_order initialized, fulfil, Book.fulfil]
    dsimp only
    rw [reversed, ← show engine.store = book.stored engine.setup.format from sound.kept]

end Engine

namespace Move

open Engine

/-- Freezing and unfreezing take each other back, and fail without a trace. -/
theorem undone_by_opposite (move : Move) :
    (∀ (account after : Account) (symbol : String) (amount : Amount), account.hasZero = false →
      (move.inPlace symbol amount).perform account = (.ok (), after) →
        (move.opposite.inPlace symbol amount).perform after = (.ok (), account)) ∧
    (∀ (account after : Account) (symbol : String) (amount : Amount) (fault : Fault),
      (move.inPlace symbol amount).perform account = (.error fault, after) → after = account) ∧
    (∀ (engine between : Engine) (envelope : Envelope) (terms : Order) (receipt : Receipt),
      engine.Reachable → envelope.request = .order move.kind terms →
      engine.deliver envelope = (.ok receipt, between) →
        ∃ back after,
          between.deliver (placed (between.lastSequence + 1) (.order move.opposite.kind terms)) =
            (.ok back, after) ∧
          after.store = engine.store ∧
          after = { engine with lastSequence := between.lastSequence + 1 }) := by
  refine ⟨?_, ?_, ?_⟩
  · intro account after symbol amount noZero performed
    exact perform_opposite noZero performed
  · intro account after symbol amount fault failed
    exact perform_eq_error failed
  · intro engine between envelope terms receipt reachable ordered delivered
    obtain ⟨book, sound⟩ := reachable.sound
    obtain ⟨back, reversed⟩ := sound.deliver_opposite ordered delivered
    exact ⟨back, _, reversed, rfl, rfl⟩

/-- The account of the one token's owner. -/
def oneHolder : Account :=
  ⟨"alice", Coins.single "GLD-1A2" 60, Coins.single "GLD-1A2" 40⟩

theorem sound_oneToken : oneToken.Sound (Book.empty.load .oneToken) := by
  rw [oneToken]
  have accepted := congrArg Prod.fst (initGenesis_oneToken ⟨.json, {}⟩ (.digest 0 3))
  exact ((sound_new _ _).initGenesis_of_accepted accepted).2

/-- The owner of the one token has enough to freeze a part of it. -/
theorem deliver_freezeOneToken :
    ∃ receipt between, oneToken.deliver .freezeOneToken = (.ok receipt, between) := by
  have parsed : Amount.parseOrFault (freezeTen "alice").amount = .ok 10 := by decide +kernel
  have valid : (Request.order .freeze (freezeTen "alice")).validate = .ok () := by decide +kernel
  obtain ⟨receipt, ordered⟩ := Book.order_of_enough oneToken.setup.params
    (Book.empty.load .oneToken) freeze parsed (by decide +kernel) (by decide +kernel)
  have ordered : Book.order oneToken.setup.params (Book.empty.load .oneToken) OrderKind.freeze
    (freezeTen "alice") = .ok (receipt, _) := ordered
  have delivered := sound_oneToken.deliver_order oneToken_initialized .freeze (freezeTen "alice")
  rw [fulfil, Book.fulfil, Book.post_order _ _ _ _ valid, ordered, oneToken_lastSequence]
    at delivered
  exact ⟨receipt, _, delivered⟩

/-- Moving all that can be spent leaves no entry, and moving it back makes one. -/
theorem undone_by_opposite_oneHolder :
    oneHolder.hasZero = false ∧
      ((freeze.inPlace "GLD-1A2" 60).perform oneHolder).2.coins.isEmpty = true ∧
      (unfreeze.inPlace "GLD-1A2" 60).perform ((freeze.inPlace "GLD-1A2" 60).perform oneHolder).2 =
        (.ok (), oneHolder) ∧
      ((freeze.inPlace "GLD-1A2" 61).perform oneHolder).2 = oneHolder ∧
      ∃ receipt between back after,
        oneToken.deliver .freezeOneToken = (.ok receipt, between) ∧
        between.deliver
            (placed (between.lastSequence + 1) (.order .unfreeze (freezeTen "alice"))) =
          (.ok back, after) ∧
        after.store = oneToken.store := by
  have noZero : oneHolder.hasZero = false := by decide +kernel
  have frozen : (freeze.inPlace "GLD-1A2" 60).perform oneHolder =
      (.ok (), ((freeze.inPlace "GLD-1A2" 60).perform oneHolder).2) :=
    Prod.fst_eq_iff.mp (by decide +kernel)
  have refused : (freeze.inPlace "GLD-1A2" 61).perform oneHolder =
      (.error (.balanceTooLow "alice" "GLD-1A2" 60 61),
        ((freeze.inPlace "GLD-1A2" 61).perform oneHolder).2) :=
    Prod.fst_eq_iff.mp (by decide +kernel)
  obtain ⟨receipt, between, delivered⟩ := deliver_freezeOneToken
  obtain ⟨succeeds, fails, engines⟩ := undone_by_opposite freeze
  obtain ⟨back, after, reversed, store, _⟩ :=
    engines oneToken between .freezeOneToken (freezeTen "alice") receipt oneToken_reachable rfl
      delivered
  exact ⟨noZero, by decide +kernel, succeeds _ _ _ _ noZero frozen, fails _ _ _ _ _ refused,
    receipt, between, back, after, delivered, reversed, store⟩

end Move

end TokenLedger
