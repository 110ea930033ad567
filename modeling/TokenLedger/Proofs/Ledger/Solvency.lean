/-
This file proves which limits a book without gaps can reach. Every check of an amount looks at one
account or at one token only. In a book in which nobody holds more of a symbol than its supply, all of
them come down to two: what an address can spend bounds what is taken from it, and the supply bounds
what is given out. The supply fits into the word, and hence so does every sum that stays within it.
-/

import Mathlib
import TokenLedger.Proofs.Ledger.Conservation

namespace TokenLedger

/-- The text of the amount in a request. -/
def Request.amountText : Request → String
  | .issue terms => terms.totalSupply
  | .order _ terms => terms.amount

namespace Book

variable {book : Book} {address : Address} {symbol : String} {token : Token} {amount : Amount}

/-- Nobody holds more of a symbol than its supply. -/
def Solvent (book : Book) : Prop :=
  ∀ address symbol, (book.account address).holding symbol ≤ book.supply symbol

/-! ### One account and all accounts -/

/-- What one address holds is a part of what all hold: without its account the sum is less by that. -/
theorem holding_le_holdings (book : Book) (address : Address) (symbol : String) :
    (book.account address).holding symbol ≤ book.holdings symbol := by
  have named : (Account.new address).address = address := rfl
  have emptied := book.holdings_withAccount named symbol
  rw [Account.holding_new] at emptied
  omega

theorem solvent_of_gap (closed : ∀ symbol, book.gap symbol = 0) : book.Solvent := by
  intro address symbol
  have held := book.holding_le_holdings address symbol
  have same := closed symbol
  rw [gap] at same
  omega

theorem supply_lt_size (book : Book) (symbol : String) : book.supply symbol < UInt64.size := by
  rw [supply]
  cases book.tokens.get? symbol with
  | none => decide
  | some token => exact token.supply.toNat_lt_size

namespace Solvent

variable (solvent : book.Solvent)
include solvent

theorem unfrozen_add_frozen_le (address : Address) (symbol : String) :
    (book.unfrozen address symbol).toNat + (book.frozen address symbol).toNat ≤
      book.supply symbol :=
  solvent address symbol

theorem unfrozen_le (registered : book.tokens.get? symbol = some token) (address : Address) :
    (book.unfrozen address symbol).toNat ≤ token.supply.toNat := by
  have within := solvent.unfrozen_add_frozen_le address symbol
  rw [supply_of_get? registered] at within
  omega

/-- Nobody holds anything of a symbol before it is registered. -/
theorem unfrozen_eq_zero (unregistered : book.tokens.get? symbol = none) (address : Address) :
    (book.unfrozen address symbol).toNat = 0 := by
  have within := solvent.unfrozen_add_frozen_le address symbol
  rw [supply_of_get?_none unregistered] at within
  omega

/-! ### Sums that fit -/

theorem frozen_fits (enough : ¬ book.unfrozen address symbol < amount) :
    ¬ Overflows (book.frozen address symbol) amount := by
  have within := solvent.unfrozen_add_frozen_le address symbol
  have small := book.supply_lt_size symbol
  have less := UInt64.le_iff_toNat_le.mp (UInt64.not_lt.mp enough)
  rw [Overflows]
  omega

theorem unfrozen_fits (enough : ¬ book.frozen address symbol < amount) :
    ¬ Overflows (book.unfrozen address symbol) amount := by
  have within := solvent.unfrozen_add_frozen_le address symbol
  have small := book.supply_lt_size symbol
  have less := UInt64.le_iff_toNat_le.mp (UInt64.not_lt.mp enough)
  rw [Overflows]
  omega

theorem first_fits (unregistered : book.tokens.get? symbol = none) (address : Address)
    (amount : Amount) : ¬ Overflows (book.unfrozen address symbol) amount := by
  have small := amount.toNat_lt_size
  rw [Overflows, solvent.unfrozen_eq_zero unregistered]
  omega

/-- What an address can spend can also be taken from the supply. -/
theorem supply_covers (registered : book.tokens.get? symbol = some token)
    (enough : ¬ book.unfrozen address symbol < amount) : ¬ token.supply < amount := by
  have within := solvent.unfrozen_le registered address
  rw [UInt64.lt_iff_toNat_lt] at enough ⊢
  omega

/-- An account overflows only if the supply does. -/
theorem overflows_supply (registered : book.tokens.get? symbol = some token) :
    Overflows (book.unfrozen address symbol) amount ∨ Overflows token.supply amount ↔
      Overflows token.supply amount := by
  have within := solvent.unfrozen_le registered address
  refine or_iff_right_of_imp fun tooMuch => ?_
  rw [Overflows] at tooMuch ⊢
  omega

end Solvent

/-! ### Checks of the text -/

theorem parseOrFault_of_parse {raw : String} (parsed : Amount.parse raw = .ok amount) :
    Amount.parseOrFault raw = .ok amount := by
  rw [Amount.parseOrFault, parsed]
  rfl

theorem parsePositive_of_parse {raw : String} (parsed : Amount.parse raw = .ok amount) :
    (Amount.parsePositive raw).mapError Fault.badAmount =
      if amount = 0 then .error (.badAmount .zero) else .ok amount := by
  rw [Amount.parsePositive, parsed]
  by_cases zero : amount = 0
  · rw [if_pos zero, zero]
    rfl
  · rw [if_neg zero]
    show Except.mapError _ (if amount = 0 then _ else _) = _
    rw [if_neg zero]
    rfl

theorem nonempty_of_parse {raw : String} (parsed : Amount.parse raw = .ok amount) : raw ≠ "" := by
  rintro rfl
  cases parsed

theorem noMinus_of_parse {raw : String} (parsed : Amount.parse raw = .ok amount) :
    '-' ∉ raw.toList := by
  intro minus
  rw [Amount.parse, if_pos minus] at parsed
  cases parsed

/-- An order for a supply passes the checks if somebody signs it and it names a symbol and an
amount. -/
theorem validateSupplyChange_of_parse {terms : Order} (signed : terms.signer ≠ "")
    (named : terms.symbol ≠ "") (parsed : Amount.parse terms.amount = .ok amount)
    (flaw : RequestFlaw) : terms.validateSupplyChange flaw = .ok () := by
  have complete : ¬ (terms.symbol = "" ∨ terms.amount = "") :=
    not_or.mpr ⟨named, nonempty_of_parse parsed⟩
  rw [Order.validateSupplyChange, if_neg signed, if_neg complete, if_neg (noMinus_of_parse parsed)]

/-- The fault is not that a sum is too large. -/
def StaysWithin : Fault → Prop
  | .badAmount .tooLarge => False
  | _ => True

/-- A text that can be read is not refused for being too large. -/
theorem validate_staysWithin {request : Request}
    (parsed : Amount.parse request.amountText = .ok amount) :
    FailsOnlyWith StaysWithin request.validate := by
  have supplyChange (terms : Order) (flaw : RequestFlaw) :
      FailsOnlyWith StaysWithin (terms.validateSupplyChange flaw) :=
    .ite (.error trivial) (.ite (.error trivial) (.ite (.error trivial) (.ok ())))
  have move (terms : Order) (read : Amount.parse terms.amount = .ok amount) :
      FailsOnlyWith StaysWithin terms.validateMove := by
    refine FailsOnlyWith.bind ?_ fun _ => .ite (.error trivial) (.ite (.error trivial) (.ok ()))
    rw [parsePositive_of_parse read]
    split
    next => exact .error trivial
    next => exact .ok amount
  cases request with
  | issue terms =>
    refine .ite (.error trivial) (.ite (.error trivial) ?_)
    have read : Amount.parseOrFault terms.totalSupply = .ok amount := parseOrFault_of_parse parsed
    rw [read]
    exact .ok ()
  | order kind terms =>
    cases kind with
    | mint => exact supplyChange terms _
    | burn => exact supplyChange terms _
    | freeze => exact move terms parsed
    | unfreeze => exact move terms parsed

/-! ### Postings to a solvent book -/

variable {params : Params} {candidate : UInt64 → String → String} {nonce : UInt64}

namespace Solvent

variable (solvent : book.Solvent)
include solvent

theorem issue_staysWithin {terms : Issuance}
    (parsed : Amount.parse terms.totalSupply = .ok amount) :
    FailsOnlyWith StaysWithin (book.issue params candidate nonce terms) := by
  refine FailsOnlyWith.bind ?_ fun amount => ?_
  · rw [parseOrFault_of_parse parsed]
    exact .ok amount
  · split
    next => exact .error trivial
    next number found =>
      have unregistered := (isFree_of_firstFree? _ _ found).2
      dsimp only
      rw [if_neg (solvent.first_fits unregistered terms.source amount)]
      exact .ok _

/-- An address that has enough to freeze has room for it. -/
theorem freeze_eq {terms : Order} (parsed : Amount.parse terms.amount = .ok amount) :
    book.freeze terms =
      if book.unfrozen terms.signer terms.symbol < amount then
        .error (.balanceTooLow terms.signer terms.symbol
          (book.unfrozen terms.signer terms.symbol) amount)
      else
        .ok (.ofMove OrderKind.freeze.action terms.symbol terms.signer amount
            (book.unfrozen terms.signer terms.symbol - amount)
            (book.frozen terms.signer terms.symbol + amount),
          book.setBuckets terms.signer terms.symbol
            (book.unfrozen terms.signer terms.symbol - amount)
            (book.frozen terms.signer terms.symbol + amount)) := by
  rw [freeze, parseOrFault_of_parse parsed]
  by_cases low : book.unfrozen terms.signer terms.symbol < amount
  · rw [if_pos low]
    exact if_pos low
  · rw [if_neg low]
    exact (if_neg low).trans (if_neg (solvent.frozen_fits low))

/-- An address that has enough to unfreeze has room for it. -/
theorem unfreeze_eq {terms : Order} (parsed : Amount.parse terms.amount = .ok amount) :
    book.unfreeze terms =
      if book.frozen terms.signer terms.symbol < amount then
        .error (.frozenBalanceTooLow terms.signer terms.symbol
          (book.frozen terms.signer terms.symbol) amount)
      else
        .ok (.ofMove OrderKind.unfreeze.action terms.symbol terms.signer amount
            (book.unfrozen terms.signer terms.symbol + amount)
            (book.frozen terms.signer terms.symbol - amount),
          book.setBuckets terms.signer terms.symbol
            (book.unfrozen terms.signer terms.symbol + amount)
            (book.frozen terms.signer terms.symbol - amount)) := by
  rw [unfreeze, parseOrFault_of_parse parsed]
  by_cases low : book.frozen terms.signer terms.symbol < amount
  · rw [if_pos low]
    exact if_pos low
  · rw [if_neg low]
    exact (if_neg low).trans (if_neg (solvent.unfrozen_fits low))

/-- An owner can burn what the owner can spend. -/
theorem burn_eq {terms : Order} (registered : book.tokens.get? terms.symbol = some token)
    (owned : token.owner = terms.signer) (parsed : Amount.parse terms.amount = .ok amount) :
    book.burn terms =
      if book.unfrozen terms.signer terms.symbol < amount then
        .error (.balanceTooLow terms.signer terms.symbol
          (book.unfrozen terms.signer terms.symbol) amount)
      else
        .ok (.ofSupply OrderKind.burn.action terms.symbol terms.signer amount
            (token.supply - amount),
          (book.setUnfrozen terms.signer terms.symbol
              (book.unfrozen terms.signer terms.symbol - amount)).setSupply terms.symbol token
            (token.supply - amount)) := by
  rw [burn, registered]
  dsimp only
  rw [if_neg (not_not.mpr owned), parseOrFault_of_parse parsed]
  by_cases low : book.unfrozen terms.signer terms.symbol < amount
  · rw [if_pos low]
    exact if_pos low
  · rw [if_neg low]
    exact (if_neg low).trans (if_neg (solvent.supply_covers registered low))

/-- An owner who may mint can do so up to the largest supply that there is. -/
theorem mint_eq {terms : Order} (registered : book.tokens.get? terms.symbol = some token)
    (owned : token.owner = terms.signer) (parsed : Amount.parse terms.amount = .ok amount) :
    book.mint params terms =
      if params.enforceMintable = true ∧ token.mintable = false then
        .error (.notMintable terms.symbol)
      else if Overflows token.supply amount then .error (.badAmount .tooLarge)
      else
        .ok (.ofSupply OrderKind.mint.action terms.symbol terms.signer amount
            (token.supply + amount),
          (book.setUnfrozen terms.signer terms.symbol
              (book.unfrozen terms.signer terms.symbol + amount)).setSupply terms.symbol token
            (token.supply + amount)) := by
  rw [mint, registered]
  dsimp only
  rw [if_neg (not_not.mpr owned), parseOrFault_of_parse parsed]
  refine if_congr Iff.rfl rfl ?_
  exact if_congr (solvent.overflows_supply registered) rfl rfl

/-- Only minting can find that a sum is too large. -/
theorem post_staysWithin {request : Request}
    (parsed : Amount.parse request.amountText = .ok amount)
    (noMint : ∀ terms, request ≠ .order .mint terms) :
    FailsOnlyWith StaysWithin (book.post params candidate nonce request) := by
  refine (validate_staysWithin parsed).bind fun _ => ?_
  cases request with
  | issue terms => exact solvent.issue_staysWithin parsed
  | order kind terms =>
    refine FailsOnlyWith.bind ?_ fun _ => .ok _
    cases kind with
    | mint => exact absurd rfl (noMint terms)
    | burn =>
      have read : Amount.parseOrFault terms.amount = .ok amount := parseOrFault_of_parse parsed
      rw [order, burn, read]
      split
      next => exact .error trivial
      next => exact .ite (.error trivial) (.ite (.error trivial) (.ite (.error trivial) (.ok _)))
    | freeze =>
      rw [order, solvent.freeze_eq parsed]
      exact .ite (.error trivial) (.ok _)
    | unfreeze =>
      rw [order, solvent.unfreeze_eq parsed]
      exact .ite (.error trivial) (.ok _)

end Solvent

end Book

end TokenLedger
