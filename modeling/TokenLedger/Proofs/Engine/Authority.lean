/-
This file says what a delivery may change, and on whose authority. A receipt names the one address
that has signed, and the stores after it differ from those before at most in the bytes under this
address and under the symbol of the receipt. Nobody but the holder of an account can change it, and
what it holds of a symbol, frozen or not, gets less only when the holder burns some of it.
-/

import Mathlib
import TokenLedger.Proofs.Engine.Reachable
import TokenLedger.Proofs.Ledger.Footprint

namespace TokenLedger.Engine

variable {engine : Engine} {book : Book}

/-- The account that an engine has of an address. -/
def accountAt (engine : Engine) (address : Address) : Except Fault Account :=
  Holdings.get engine.setup.format (.ofStore engine.store.accounts) address

/-- The engine after a request with a receipt differs from the one before at most in the records
that the receipt names. -/
structure Touches (engine : Engine) (request : Request) (receipt : Receipt) (after : Engine) :
    Prop where
  signers : request.signers = [receipt.address]
  accounts : ∀ key, key ≠ utf8 receipt.address →
    after.store.accounts.get? key = engine.store.accounts.get? key
  tokens : ∀ key, key ≠ utf8 receipt.symbol →
    after.store.tokens.get? key = engine.store.tokens.get? key
  /-- Freezing and unfreezing write no token at all. -/
  moves : ∀ kind terms, request = .order kind terms → kind = .freeze ∨ kind = .unfreeze →
    after.store.tokens = engine.store.tokens
  /-- In the account of the signer all other denominations stay, in both buckets. -/
  account : ∃ before later, engine.accountAt receipt.address = .ok before ∧
    after.accountAt receipt.address = .ok later ∧ later.SameBut receipt.symbol before

/-! ### The stores of a sound engine -/

theorem Sound.accounts_eq (sound : engine.Sound book) :
    engine.store.accounts = book.accountStore engine.setup.format :=
  congrArg LedgerStore.accounts sound.kept

theorem Sound.tokens_eq (sound : engine.Sound book) :
    engine.store.tokens = book.tokenStore engine.setup.format :=
  congrArg LedgerStore.tokens sound.kept

theorem Sound.accountAt_eq (sound : engine.Sound book) (address : Address) :
    engine.accountAt address = .ok (book.account address) :=
  Holdings.get_of_view ((LayeredStore.view_ofStore _).trans sound.accounts_eq) address

/-- A posting touches no more than its receipt names. -/
theorem Sound.touches (sound : engine.Sound book) {request : Request} {receipt : Receipt}
    {after : Book} {next : UInt64}
    (posted : Book.Posted engine.setup.params engine.generator.candidate engine.generator.nonce book
      request receipt after next) (place : UInt64) :
    engine.Touches request receipt
      { engine with
        store := after.stored engine.setup.format
        generator := ⟨engine.generator.candidate, next⟩
        lastSequence := place } where
  signers := congrArg (fun address => [address]) posted.signer_eq
  accounts := by
    intro key distinct
    rw [sound.accounts_eq]
    exact posted.get?_accountStore_other sound.complete _ distinct
  tokens := by
    intro key distinct
    rw [sound.tokens_eq]
    exact posted.get?_tokenStore_other _ distinct
  moves := by
    rintro kind terms rfl move
    rw [sound.tokens_eq]
    show after.tokenStore _ = _
    rw [Book.tokenStore, posted.tokens_of_move move, Book.tokenStore]
  account :=
    ⟨_, _, sound.accountAt_eq _, (sound.withPosted posted place).accountAt_eq _,
      posted.account_sameBut sound.complete⟩

/-! ### Deliveries -/

/-- A delivery with a receipt touches only what the receipt names. A delivery with any outcome leaves
the bytes of every account alone but for that of the signer, and an address holds less of a symbol
afterwards only if it has signed for burning some of it, and then less by exactly the amount. -/
theorem deliver_touches (reachable : engine.Reachable) (envelope : Envelope) :
    (∀ receipt, (engine.deliver envelope).1 = .ok receipt →
      engine.Touches envelope.request receipt (engine.deliver envelope).2) ∧
    (∀ key, key ≠ utf8 envelope.request.signer →
      (engine.deliver envelope).2.store.accounts.get? key = engine.store.accounts.get? key) ∧
    (∀ (address : Address) (symbol : String), ∃ before later,
      engine.accountAt address = .ok before ∧
      (engine.deliver envelope).2.accountAt address = .ok later ∧
      (before.holding symbol ≤ later.holding symbol ∨
        ∃ terms receipt, envelope.request = .order .burn terms ∧ terms.signer = address ∧
          terms.symbol = symbol ∧ (engine.deliver envelope).1 = .ok receipt ∧
          Amount.parse terms.amount = .ok receipt.amount ∧
          before.holding symbol = later.holding symbol + receipt.amount.toNat)) := by
  obtain ⟨book, sound⟩ := reachable.sound
  rcases sound.deliver_cases envelope with
    ⟨fault, place, refused⟩ | ⟨receipt, after, next, posted, delivered⟩
  · rw [refused]
    refine ⟨nofun, fun _ _ => rfl, fun address symbol => ?_⟩
    exact ⟨_, _, sound.accountAt_eq address, (sound.withPlace place).accountAt_eq address,
      Or.inl le_rfl⟩
  · rw [delivered]
    have touched := sound.touches posted envelope.sequence
    refine ⟨fun _ same => Except.ok.inj same ▸ touched, fun key distinct => ?_,
      fun address symbol => ?_⟩
    · exact touched.accounts key (posted.signer_eq ▸ distinct)
    · refine ⟨_, _, sound.accountAt_eq address,
        (sound.withPosted posted envelope.sequence).accountAt_eq address, ?_⟩
      rcases posted.holding_cases sound.complete address symbol with
        kept | ⟨terms, burn, signer, burned, parsed, less⟩
      · exact Or.inl kept
      · exact Or.inr ⟨terms, receipt, burn, signer, burned, rfl, parsed, less⟩

theorem deliver_touches_oneToken :
    oneToken.Reachable ∧ (∃ receipt, (oneToken.deliver .freezeOneToken).1 = .ok receipt ∧
      oneToken.Touches Envelope.freezeOneToken.request receipt
        (oneToken.deliver .freezeOneToken).2) := by
  have accepted : ∃ receipt, (oneToken.deliver .freezeOneToken).1 = .ok receipt :=
    ⟨.ofMove OrderKind.freeze.action "GLD-1A2" "alice" 10 50 50, by decide +kernel⟩
  obtain ⟨receipt, received⟩ := accepted
  exact ⟨oneToken_reachable, receipt, received,
    (deliver_touches oneToken_reachable .freezeOneToken).1 receipt received⟩

end TokenLedger.Engine
