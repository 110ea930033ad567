/-
This file proves which arithmetic failures can be reached from a balanced genesis state. Every check
of a sum or a difference looks at one account or at one token. What all accounts hold of a symbol
stays its supply in every run, and so nobody ever holds more than that. Hence no request but one to
mint finds that a sum is too large; an owner who burns is stopped by the account and never by the
supply; and an owner who mints is stopped by the supply and never by the account.
-/

import Mathlib
import TokenLedger.Proofs.Engine.Authority
import TokenLedger.Proofs.Engine.Sequencing
import TokenLedger.Proofs.Ledger.Solvency

namespace TokenLedger

/-- Burn more than the owner of the one token can spend, though not more than there is. -/
def Envelope.burnOneToken : Envelope :=
  ⟨1, TokenLedger.schemaVersion, .order .burn ⟨"61", "GLD-1A2", "alice"⟩⟩

/-- Mint as much of the one token as makes its supply too large. -/
def Envelope.mintOneToken : Envelope :=
  ⟨1, TokenLedger.schemaVersion, .order .mint ⟨"18446744073709551516", "GLD-1A2", "alice"⟩⟩

namespace Engine

variable {engine : Engine} {book : Book} {envelope : Envelope} {amount : Amount}

/-- By the induction over the envelopes that keeps every gap, a run from a balanced genesis state
leaves a book in which nobody holds more than the supply. -/
theorem Loaded.run_solvent {genesis : GenesisState} (loaded : engine.Loaded genesis)
    (balanced : genesis.Balanced) (envelopes : List Envelope) :
    ∃ after, (engine.run envelopes).Sound after ∧ after.Solvent := by
  obtain ⟨valid, sound⟩ := loaded.sound
  obtain ⟨after, later, same⟩ := sound.run_gap envelopes
  refine ⟨after, later, Book.solvent_of_gap fun symbol => ?_⟩
  rw [same, Book.gap_load valid, GenesisState.balanced_iff.mp balanced]

/-- No delivery but one of an order to mint fails because a sum is too large. -/
theorem Sound.deliver_staysWithin (sound : engine.Sound book) (solvent : book.Solvent)
    (parsed : Amount.parse envelope.request.amountText = .ok amount)
    (noMint : ∀ terms, envelope.request ≠ .order .mint terms) :
    (engine.deliver envelope).1 ≠ .error (.badAmount .tooLarge) := by
  intro tooLarge
  obtain ⟨posted, _⟩ := sound.post_of_refused tooLarge rfl
  exact solvent.post_staysWithin parsed noMint _ posted

/-- What becomes of an order that its owner gives for a supply. -/
theorem Sound.outcome_of_order (sound : engine.Sound book) {kind : OrderKind} {terms : Order}
    (ordered : envelope.request = .order kind terms)
    (accepted : engine.checkEnvelope envelope = .ok ())
    (valid : (Request.order kind terms).validate = .ok ()) :
    (engine.deliver envelope).1 =
      (book.order engine.setup.params kind terms).map fun posted => posted.1 := by
  rw [sound.deliver_fst accepted, ordered, Book.post_order _ _ _ book valid]
  cases book.order engine.setup.params kind terms <;> rfl

/-- In every run from a balanced genesis state, no request but one to mint fails because a sum is
too large. An owner's order to burn fails exactly if the amount is more than what the owner can
spend; otherwise it is not more than the supply either. An owner's order to mint, if that is allowed,
fails exactly if the supply would be too large. -/
theorem balanced_run_limits {genesis : GenesisState} (loaded : engine.Loaded genesis)
    (balanced : genesis.Balanced) (envelopes : List Envelope) :
    (∀ (envelope : Envelope) (amount : Amount),
      Amount.parse envelope.request.amountText = .ok amount →
      (∀ terms, envelope.request ≠ .order .mint terms) →
      ((engine.run envelopes).deliver envelope).1 ≠ .error (.badAmount .tooLarge)) ∧
    ∀ (envelope : Envelope) (terms : Order) (token : Token) (account : Account) (amount : Amount),
      (engine.run envelopes).checkEnvelope envelope = .ok () →
      (engine.run envelopes).tokenAt terms.symbol = .ok token → token.owner = terms.signer →
      (engine.run envelopes).accountAt terms.signer = .ok account →
      Amount.parse terms.amount = .ok amount →
      (amount ≤ account.unfrozen terms.symbol → amount ≤ token.supply) ∧
      (envelope.request = .order .burn terms →
        ((engine.run envelopes).deliver envelope).1 =
          if account.unfrozen terms.symbol < amount then
            .error (.balanceTooLow terms.signer terms.symbol (account.unfrozen terms.symbol) amount)
          else
            .ok (.ofSupply OrderKind.burn.action terms.symbol terms.signer amount
              (token.supply - amount))) ∧
      (envelope.request = .order .mint terms →
        ((engine.run envelopes).deliver envelope).1 =
          if engine.setup.params.enforceMintable = true ∧ token.mintable = false then
            .error (.notMintable terms.symbol)
          else if UInt64.size ≤ token.supply.toNat + amount.toNat then .error (.badAmount .tooLarge)
          else
            .ok (.ofSupply OrderKind.mint.action terms.symbol terms.signer amount
              (token.supply + amount))) := by
  obtain ⟨book, sound, solvent⟩ := loaded.run_solvent balanced envelopes
  refine ⟨fun envelope amount parsed noMint => sound.deliver_staysWithin solvent parsed noMint,
    fun envelope terms token account amount accepted found owned looked parsed => ?_⟩
  have registered := sound.tokenAt_eq_ok_iff.mp found
  have recorded := sound.complete.token _ _ registered
  obtain rfl : book.account terms.signer = account :=
    Except.ok.inj ((sound.accountAt_eq terms.signer).symm.trans looked)
  have valid (flaw : RequestFlaw) : terms.validateSupplyChange flaw = .ok () :=
    Book.validateSupplyChange_of_parse (owned ▸ recorded.owner_ne) recorded.symbol_ne parsed flaw
  refine ⟨fun enough => ?_, fun burns => ?_, fun mints => ?_⟩
  · exact UInt64.not_lt.mp (solvent.supply_covers registered (UInt64.not_lt.mpr enough))
  · rw [sound.outcome_of_order burns accepted (valid .noSource), Book.order,
      solvent.burn_eq registered owned parsed, map_ite_error]
    rfl
  · have setup := (sameRules_run engine envelopes).setup
    rw [sound.outcome_of_order mints accepted (valid .noMinter), Book.order,
      solvent.mint_eq registered owned parsed, setup, map_ite_error, map_ite_error]
    rfl

theorem balanced_run_limits_oneToken :
    oneToken.Loaded .oneToken ∧ GenesisState.oneToken.Balanced ∧
      (oneToken.deliver .burnOneToken).1 = .error (.balanceTooLow "alice" "GLD-1A2" 60 61) ∧
      (oneToken.deliver .mintOneToken).1 = .error (.badAmount .tooLarge) := by
  have sound := loaded_oneToken.sound.2
  have found : oneToken.tokenAt "GLD-1A2" =
      .ok ⟨"alice", "Gold", "GLD-1A2", "GLD", Coins.single "GLD-1A2" 100, true⟩ :=
    sound.tokenAt_eq_ok_iff.mpr (by decide)
  have next : oneToken.lastSequence + 1 = 1 := by rw [oneToken_lastSequence, UInt64.zero_add]
  have accepted (request : Request) :
      oneToken.checkEnvelope ⟨1, TokenLedger.schemaVersion, request⟩ = .ok () :=
    checkEnvelope_of_follows oneToken_initialized ⟨rfl, next.symm⟩
  have limits := (balanced_run_limits loaded_oneToken balanced_oneToken []).2
  rw [run, List.foldl_nil] at limits
  have burn := (limits .burnOneToken ⟨"61", "GLD-1A2", "alice"⟩ _ _ 61 (accepted _) found rfl
    (sound.accountAt_eq "alice") (by decide)).2.1 rfl
  have mint := (limits .mintOneToken ⟨"18446744073709551516", "GLD-1A2", "alice"⟩ _ _
    18446744073709551516 (accepted _) found rfl (sound.accountAt_eq "alice") (by decide)).2.2 rfl
  have allowed := mint.trans (if_neg fun forbidden => nomatch forbidden.2)
  exact ⟨loaded_oneToken, balanced_oneToken, burn, allowed.trans (if_pos (by decide))⟩

end Engine

end TokenLedger
