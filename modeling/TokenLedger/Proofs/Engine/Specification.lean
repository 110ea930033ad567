/-
This file compares an engine with its book. Deliveries read and write bytes, in two stores with
pending writes before them; the book is what the stored bytes come to when they are decoded. Over
every engine that can be reached, delivering an accepted envelope is one posting to the book: the
outcome is that of the posting, and the stores that are reached decode to the book that was posted.
-/

import Mathlib
import TokenLedger.Proofs.Engine.Reachable

namespace TokenLedger

/-- Issue a token. -/
def Envelope.issueToken : Envelope :=
  ⟨1, TokenLedger.schemaVersion, .issue ⟨"alice", "Gold", "GLD", "100", true⟩⟩

namespace Engine

variable {engine : Engine}

/-- The book that the stores of an engine keep, if every record can be read. -/
def book (engine : Engine) : Except Fault Book :=
  Book.ofStore engine.setup.format engine.store

/-- An engine whose first proposal is the empty symbol. -/
def emptyFirst : Engine :=
  ((new ⟨.json, {}⟩ (.ofList ["", "GLD-1"])).initGenesis ⟨[], []⟩).2

theorem Sound.book_eq {book : Book} (sound : engine.Sound book) : engine.book = .ok book := by
  rw [Engine.book, sound.kept]
  exact sound.complete.ofStore_stored engine.setup.format

/-- Delivering an accepted envelope posts its request to the book of the stores. A refusal is the
refusal of the posting, and only uses up the envelope's place in the sequence. A receipt is the
receipt of the posting; the stores then keep the book that was posted, and the generator has made
the proposals that the posting has looked at. -/
theorem deliver_eq_post (reachable : engine.Reachable) {envelope : Envelope}
    (accepted : engine.checkEnvelope envelope = .ok ()) :
    ∃ book, engine.book = .ok book ∧ engine.store = book.stored engine.setup.format ∧
      book.Complete ∧ book.NamesSupply ∧
      match book.post engine.setup.params engine.generator.candidate engine.generator.nonce
          envelope.request with
      | .error fault =>
        engine.deliver envelope = (.error fault, { engine with lastSequence := envelope.sequence })
      | .ok (receipt, after, next) =>
        (engine.deliver envelope).2.book = .ok after ∧ after.Complete ∧ after.NamesSupply ∧
          engine.deliver envelope =
            (.ok receipt,
              { engine with
                store := after.stored engine.setup.format
                generator := ⟨engine.generator.candidate, next⟩
                lastSequence := envelope.sequence }) := by
  obtain ⟨book, sound⟩ := reachable.sound
  have names := sound.named (initialized_of_checkEnvelope accepted)
  refine ⟨book, sound.book_eq, sound.kept, sound.complete, names, ?_⟩
  have delivered := sound.kept.deliver sound.complete names accepted
  cases posted : book.post engine.setup.params engine.generator.candidate engine.generator.nonce
      envelope.request with
  | error fault =>
    rw [posted] at delivered
    exact delivered
  | ok result =>
    obtain ⟨receipt, after, next⟩ := result
    rw [posted] at delivered
    have succeeded := Book.posted_of_post posted
    have complete := succeeded.complete sound.complete
    refine ⟨?_, complete, succeeded.namesSupply names, delivered⟩
    rw [delivered]
    exact complete.ofStore_stored engine.setup.format

theorem deliver_eq_post_oneToken :
    oneToken.checkEnvelope .freezeOneToken = .ok () ∧
      ∃ book, oneToken.book = .ok book ∧ book.Complete :=
  have accepted : oneToken.checkEnvelope .freezeOneToken = .ok () := by decide +kernel
  have ⟨book, kept, _, complete, _⟩ := deliver_eq_post oneToken_reachable accepted
  ⟨accepted, book, kept, complete⟩

/-- A proposal that nothing is registered under may still be passed by: the empty one is. -/
theorem deliver_passes_empty_proposal :
    emptyFirst.Reachable ∧ emptyFirst.checkEnvelope .issueToken = .ok () ∧
      (emptyFirst.book.map fun book => book.tokens.contains
        (emptyFirst.generator.candidate (emptyFirst.generator.nonce + 1) "GLD")) = .ok false ∧
      (emptyFirst.deliver .issueToken).1 =
        .ok (.ofSupply Request.issueAction "GLD-1" "alice" 100 100) ∧
      emptyFirst.generator.candidate (emptyFirst.generator.nonce + 1) "GLD" ≠ "GLD-1" :=
  ⟨.initGenesis (.new _ _) _, by decide +kernel, by decide +kernel, by decide +kernel,
    by decide +kernel⟩

end Engine

end TokenLedger
