/-
This file proves that two orders by different signers can be delivered in either order. Each comes to
the same, and the engine is left the same, whichever comes first. Only an engine that has not loaded
a genesis state tells the two apart, because it refuses the first of them without using up its place
in the sequence, so that the second then comes out of sequence.
-/

import Mathlib
import TokenLedger.Proofs.Engine.Bisimulation
import TokenLedger.Proofs.Ledger.Independence

namespace TokenLedger.Engine

variable {engine : Engine} {book : Book}

/-- A request at its place in the sequence. -/
def placed (sequence : UInt64) (request : Request) : Envelope :=
  ⟨sequence, schemaVersion, request⟩

/-- Deliver two requests at the next two places in the sequence: both outcomes, and the engine after
them. -/
def deliverPair (engine : Engine) (first second : Request) : (Outcome × Outcome) × Engine :=
  let (outcome, between) := engine.deliver (placed (engine.lastSequence + 1) first)
  let (other, after) := between.deliver (placed (engine.lastSequence + 1 + 1) second)
  ((outcome, other), after)

/-- What a request comes to by the rules of an engine, and the book that it leaves. -/
def fulfil (engine : Engine) (book : Book) (request : Request) : Outcome × Book :=
  book.fulfil engine.setup.params engine.generator.candidate engine.generator.nonce request

/-! ### Engines that have loaded a genesis state -/

/-- A request at the next place is accepted. -/
theorem checkEnvelope_placed (initialized : engine.initialized = true) (request : Request) :
    engine.checkEnvelope (placed (engine.lastSequence + 1) request) = .ok () := by
  simp [checkEnvelope, placed, initialized]

/-- An order at the next place comes to what fulfilling it comes to, and no symbol is proposed. -/
theorem Sound.deliver_order (sound : engine.Sound book) (initialized : engine.initialized = true)
    (kind : OrderKind) (terms : Order) :
    engine.deliver (placed (engine.lastSequence + 1) (.order kind terms)) =
      ((engine.fulfil book (.order kind terms)).1,
        { engine with
          store := (engine.fulfil book (.order kind terms)).2.stored engine.setup.format
          lastSequence := engine.lastSequence + 1 }) := by
  rw [sound.kept.deliver sound.complete (sound.named initialized)
    (checkEnvelope_placed initialized _), fulfil, Book.fulfil]
  dsimp only [placed]
  cases posted : book.post engine.setup.params engine.generator.candidate engine.generator.nonce
      (.order kind terms) with
  | error fault =>
    dsimp only
    rw [← show engine.store = book.stored engine.setup.format from sound.kept]
  | ok result =>
    obtain ⟨receipt, after, next⟩ := result
    obtain rfl : next = engine.generator.nonce := (Book.posted_of_post posted).nonce_eq
    rfl

/-- Two orders at the next two places are fulfilled one after the other. -/
theorem Sound.deliverPair_orders (sound : engine.Sound book)
    (initialized : engine.initialized = true) (first second : OrderKind)
    (firstTerms secondTerms : Order) :
    engine.deliverPair (.order first firstTerms) (.order second secondTerms) =
      (((engine.fulfil book (.order first firstTerms)).1,
          (engine.fulfil (engine.fulfil book (.order first firstTerms)).2
            (.order second secondTerms)).1),
        { engine with
          store := (engine.fulfil (engine.fulfil book (.order first firstTerms)).2
            (.order second secondTerms)).2.stored engine.setup.format
          lastSequence := engine.lastSequence + 1 + 1 }) := by
  have between : Sound
      { engine with
        store := (engine.fulfil book (.order first firstTerms)).2.stored engine.setup.format
        lastSequence := engine.lastSequence + 1 }
      (engine.fulfil book (.order first firstTerms)).2 :=
    ⟨rfl, sound.complete.fulfil _, fun _ => (sound.named initialized).fulfil _⟩
  have later := between.deliver_order initialized second secondTerms
  rw [deliverPair, sound.deliver_order initialized]
  dsimp only at later ⊢
  rw [later]
  rfl

/-! ### Engines that have not -/

/-- Without a genesis state, no delivery changes anything. -/
theorem deliver_of_not_initialized (unloaded : engine.initialized = false) (envelope : Envelope) :
    (engine.deliver envelope).2 = engine := by
  obtain ⟨fault, refused⟩ := checkEnvelope_of_not_initialized unloaded envelope
  rw [deliver_eq, refused]

theorem deliverPair_of_not_initialized (unloaded : engine.initialized = false)
    (first second : Request) : (engine.deliverPair first second).2 = engine := by
  show ((engine.deliver _).2.deliver _).2 = engine
  rw [deliver_of_not_initialized unloaded, deliver_of_not_initialized unloaded]

/-! ### Both orders of delivery -/

/-- Two orders by different signers leave the engine the same, whichever is delivered first, and if
a genesis state has been loaded, each of them also comes to the same. -/
theorem orders_commute (reachable : engine.Reachable) (first second : OrderKind)
    {firstTerms secondTerms : Order} (apart : firstTerms.signer ≠ secondTerms.signer) :
    (engine.deliverPair (.order first firstTerms) (.order second secondTerms)).2 =
        (engine.deliverPair (.order second secondTerms) (.order first firstTerms)).2 ∧
      (engine.initialized = true →
        (engine.deliverPair (.order first firstTerms) (.order second secondTerms)).1 =
          (engine.deliverPair (.order second secondTerms) (.order first firstTerms)).1.swap) := by
  obtain ⟨book, sound⟩ := reachable.sound
  cases initialized : engine.initialized with
  | false =>
    rw [deliverPair_of_not_initialized initialized, deliverPair_of_not_initialized initialized]
    exact ⟨rfl, nofun⟩
  | true =>
    rw [sound.deliverPair_orders initialized, sound.deliverPair_orders initialized]
    refine ⟨?_, fun _ => Prod.ext ?_ ?_⟩
    · exact congrArg (fun after : Book =>
          { engine with
            store := after.stored engine.setup.format
            lastSequence := engine.lastSequence + 1 + 1 })
        (sound.complete.fulfil_comm apart first second)
    · exact (sound.complete.outcome_fulfil apart first second).symm
    · exact sound.complete.outcome_fulfil apart.symm second first

/-- Freeze a part of what an address can spend of the one token. -/
def freezeTen (signer : Address) : Order := ⟨"10", "GLD-1A2", signer⟩

theorem orders_commute_oneToken :
    oneToken.Reachable ∧ (freezeTen "alice").signer ≠ (freezeTen "bob").signer ∧
      oneToken.initialized = true ∧
      (oneToken.deliverPair (.order .freeze (freezeTen "alice"))
          (.order .freeze (freezeTen "bob"))).2 =
        (oneToken.deliverPair (.order .freeze (freezeTen "bob"))
          (.order .freeze (freezeTen "alice"))).2 ∧
      (oneToken.deliverPair (.order .freeze (freezeTen "alice"))
          (.order .freeze (freezeTen "bob"))).1 =
        (oneToken.deliverPair (.order .freeze (freezeTen "bob"))
          (.order .freeze (freezeTen "alice"))).1.swap := by
  have apart : (freezeTen "alice").signer ≠ (freezeTen "bob").signer := by decide
  have initialized : oneToken.initialized = true := by decide +kernel
  have commute := orders_commute oneToken_reachable .freeze .freeze apart
  exact ⟨oneToken_reachable, apart, initialized, commute.1, commute.2 initialized⟩

/-- Before a genesis state is loaded, an order that is delivered first comes to something else than
one that is delivered second. -/
theorem orders_differ_unloaded :
    unloaded.Reachable ∧ (freezeTen "alice").signer ≠ (freezeTen "bob").signer ∧
      (unloaded.deliverPair (.order .freeze (freezeTen "alice"))
        (.order .freeze (freezeTen "bob"))).1.1 = .error .noGenesis ∧
      (unloaded.deliverPair (.order .freeze (freezeTen "bob"))
        (.order .freeze (freezeTen "alice"))).1.2 = .error (.outOfSequence 1 2) ∧
      (unloaded.deliverPair (.order .freeze (freezeTen "alice"))
          (.order .freeze (freezeTen "bob"))).1 ≠
        (unloaded.deliverPair (.order .freeze (freezeTen "bob"))
          (.order .freeze (freezeTen "alice"))).1.swap :=
  ⟨.new _ _, by decide, by decide +kernel, by decide +kernel, by decide +kernel⟩

end TokenLedger.Engine
