/-
This file proves that the orders of two different addresses have nothing to do with each other. To
each address a book shows the account of the address, the owner under each symbol, and the tokens
that the address owns. What an order comes to depends only on what its signer is shown, and what
others are shown of a book is left as it was. Hence it makes no difference which of two orders by
different signers comes first: neither signer can tell, and nobody else is shown anything new.
-/

import Mathlib
import TokenLedger.Proofs.Ledger.Footprint

namespace TokenLedger

/-- What an address is shown of a token: the owner, and everything if it is the owner. -/
def Token.shownTo (observer : Address) (token : Token) : Address × Option Token :=
  (token.owner, if token.owner = observer then some token else none)

namespace Book

variable {params : Params} {candidate : UInt64 → String → String} {nonce next : UInt64}
  {book between other after : Book} {observer : Address} {terms : Order} {kind : OrderKind}

/-! ### Books that look the same to an address -/

/-- Two books show the same to an address. -/
structure LooksLike (observer : Address) (book other : Book) : Prop where
  account : other.accounts.get? observer = book.accounts.get? observer
  token : ∀ symbol, (other.tokens.get? symbol).map (Token.shownTo observer) =
    (book.tokens.get? symbol).map (Token.shownTo observer)

theorem LooksLike.refl (observer : Address) (book : Book) : book.LooksLike observer book :=
  ⟨rfl, fun _ => rfl⟩

theorem LooksLike.symm (alike : book.LooksLike observer other) : other.LooksLike observer book :=
  ⟨alike.account.symm, fun symbol => (alike.token symbol).symm⟩

theorem LooksLike.trans (first : book.LooksLike observer between)
    (second : between.LooksLike observer other) : book.LooksLike observer other :=
  ⟨second.account.trans first.account,
    fun symbol => (second.token symbol).trans (first.token symbol)⟩

/-- Books that look the same to every address are the same. -/
theorem eq_of_looksLike (alike : ∀ observer, book.LooksLike observer other) : other = book := by
  have accounts : other.accounts = book.accounts :=
    SortedMap.ext_get? fun observer => (alike observer).account
  have tokens : other.tokens = book.tokens := by
    refine SortedMap.ext_get? fun symbol => ?_
    cases found : book.tokens.get? symbol with
    | none =>
      have shown := (alike "").token symbol
      rw [found] at shown
      exact Option.map_eq_none_iff.mp shown
    | some token =>
      -- The owner is shown the whole token.
      have shown := (alike token.owner).token symbol
      rw [found] at shown
      obtain ⟨same, stored, view⟩ := Option.map_eq_some_iff.mp shown
      obtain ⟨owner, whole⟩ := Prod.mk.inj view
      rw [if_pos owner, if_pos rfl] at whole
      rw [stored, whole]
  calc other
      = ⟨other.tokens, other.accounts⟩ := rfl
    _ = book := by rw [tokens, accounts]

/-- The same is registered under a symbol, or tokens of the same owner, who is somebody else. -/
theorem LooksLike.token_cases (alike : book.LooksLike observer other) (symbol : String) :
    other.tokens.get? symbol = book.tokens.get? symbol ∨
      ∃ token same, book.tokens.get? symbol = some token ∧ other.tokens.get? symbol = some same ∧
        same.owner = token.owner ∧ token.owner ≠ observer := by
  have shown := alike.token symbol
  cases found : book.tokens.get? symbol with
  | none =>
    rw [found] at shown
    exact Or.inl (Option.map_eq_none_iff.mp shown)
  | some token =>
    rw [found] at shown
    obtain ⟨same, stored, view⟩ := Option.map_eq_some_iff.mp shown
    obtain ⟨owner, whole⟩ := Prod.mk.inj view
    by_cases own : token.owner = observer
    · rw [if_pos own, if_pos (owner.trans own)] at whole
      exact Or.inl (stored.trans whole)
    · exact Or.inr ⟨token, same, rfl, stored, owner, own⟩

theorem LooksLike.account_eq (alike : book.LooksLike observer other) :
    other.account observer = book.account observer := by
  rw [Book.account, alike.account, Book.account]

theorem LooksLike.unfrozen_eq (alike : book.LooksLike observer other) (symbol : String) :
    other.unfrozen observer symbol = book.unfrozen observer symbol := by
  rw [unfrozen, alike.account_eq, unfrozen]

theorem LooksLike.frozen_eq (alike : book.LooksLike observer other) (symbol : String) :
    other.frozen observer symbol = book.frozen observer symbol := by
  rw [frozen, alike.account_eq, frozen]

/-! ### The same change to both books -/

theorem LooksLike.withAccount (alike : book.LooksLike observer other) (account : Account) :
    (book.withAccount account).LooksLike observer (other.withAccount account) := by
  refine ⟨?_, alike.token⟩
  rw [get?_withAccount, get?_withAccount, alike.account]

theorem LooksLike.withToken (alike : book.LooksLike observer other) (symbol : String)
    (token : Token) : (book.withToken symbol token).LooksLike observer
      (other.withToken symbol token) := by
  refine ⟨alike.account, fun another => ?_⟩
  rw [Book.withToken, Book.withToken, SortedMap.get?_insert, SortedMap.get?_insert]
  split
  · rfl
  · exact alike.token another

theorem LooksLike.setUnfrozen (alike : book.LooksLike observer other) (symbol : String)
    (amount : Amount) : (book.setUnfrozen observer symbol amount).LooksLike observer
      (other.setUnfrozen observer symbol amount) := by
  rw [Book.setUnfrozen, Book.setUnfrozen, alike.account_eq]
  exact alike.withAccount _

theorem LooksLike.setBuckets (alike : book.LooksLike observer other) (symbol : String)
    (unfrozen frozen : Amount) : (book.setBuckets observer symbol unfrozen frozen).LooksLike
      observer (other.setBuckets observer symbol unfrozen frozen) := by
  rw [Book.setBuckets, Book.setBuckets, alike.account_eq]
  exact alike.withAccount _

/-! ### Orders by the observer -/

/-- Two results that look the same to an address: one fault, or one receipt with books that look the
same. -/
inductive SameResult (observer : Address) :
    Except Fault (Receipt × Book) → Except Fault (Receipt × Book) → Prop
  | fault (fault : Fault) : SameResult observer (.error fault) (.error fault)
  | receipt (receipt : Receipt) {after later : Book} (alike : after.LooksLike observer later) :
      SameResult observer (.ok (receipt, after)) (.ok (receipt, later))

theorem SameResult.bind {α : Type} (first : Except Fault α)
    {next other : α → Except Fault (Receipt × Book)}
    (same : ∀ value, SameResult observer (next value) (other value)) :
    SameResult observer (first >>= next) (first >>= other) := by
  cases first with
  | error fault => exact .fault fault
  | ok value => exact same value

/-- A check that both books pass or fail. -/
theorem SameResult.check {condition : Prop} [Decidable condition] (fault : Fault)
    {result other : Except Fault (Receipt × Book)} (same : SameResult observer result other) :
    SameResult observer (if condition then .error fault else result)
      (if condition then .error fault else other) := by
  split
  · exact .fault fault
  · exact same

/-- The token under a symbol is found in both books or in neither, and if its owner is somebody else
then in both. -/
theorem LooksLike.owned (alike : book.LooksLike terms.signer other)
    {rest otherRest : Token → Except Fault (Receipt × Book)}
    (same : ∀ token, SameResult terms.signer (rest token) (otherRest token)) :
    SameResult terms.signer
      (match book.tokens.get? terms.symbol with
        | none => .error (.tokenNotFound terms.symbol)
        | some token =>
          if token.owner ≠ terms.signer then .error (.notOwner token.owner terms.signer)
          else rest token)
      (match other.tokens.get? terms.symbol with
        | none => .error (.tokenNotFound terms.symbol)
        | some token =>
          if token.owner ≠ terms.signer then .error (.notOwner token.owner terms.signer)
          else otherRest token) := by
  rcases alike.token_cases terms.symbol with stays | ⟨token, foreign, found, stored, owner, notOwn⟩
  · rw [stays]
    cases book.tokens.get? terms.symbol with
    | none => exact .fault _
    | some token => exact .check _ (same token)
  · -- The tokens of somebody else may differ, but the refusal names nothing but the owner.
    rw [found, stored]
    dsimp only
    rw [owner, if_pos notOwn, if_pos notOwn]
    exact .fault _

theorem LooksLike.mint (alike : book.LooksLike terms.signer other) :
    SameResult terms.signer (book.mint params terms) (other.mint params terms) := by
  rw [Book.mint, Book.mint, alike.unfrozen_eq]
  refine alike.owned fun token => .check _ (.bind _ fun amount => .check _ (.receipt _ ?_))
  exact (alike.setUnfrozen _ _).withToken _ _

theorem LooksLike.burn (alike : book.LooksLike terms.signer other) :
    SameResult terms.signer (book.burn terms) (other.burn terms) := by
  rw [Book.burn, Book.burn, alike.unfrozen_eq]
  refine alike.owned fun token => .bind _ fun amount => .check _ (.check _ (.receipt _ ?_))
  exact (alike.setUnfrozen _ _).withToken _ _

theorem LooksLike.freeze (alike : book.LooksLike terms.signer other) :
    SameResult terms.signer (book.freeze terms) (other.freeze terms) := by
  rw [Book.freeze, Book.freeze, alike.unfrozen_eq, alike.frozen_eq]
  exact .bind _ fun amount => .check _ (.check _ (.receipt _ (alike.setBuckets _ _ _)))

theorem LooksLike.unfreeze (alike : book.LooksLike terms.signer other) :
    SameResult terms.signer (book.unfreeze terms) (other.unfreeze terms) := by
  rw [Book.unfreeze, Book.unfreeze, alike.unfrozen_eq, alike.frozen_eq]
  exact .bind _ fun amount => .check _ (.check _ (.receipt _ (alike.setBuckets _ _ _)))

/-- What an order comes to depends on what its signer is shown. -/
theorem LooksLike.order (alike : book.LooksLike terms.signer other) (kind : OrderKind) :
    SameResult terms.signer (book.order params kind terms) (other.order params kind terms) := by
  cases kind with
  | mint => exact alike.mint
  | burn => exact alike.burn
  | freeze => exact alike.freeze
  | unfreeze => exact alike.unfreeze

/-! ### Orders by others -/

theorem looksLike_withAccount_other (book : Book) {account : Account}
    (foreign : observer ≠ account.address) : book.LooksLike observer (book.withAccount account) :=
  ⟨get?_withAccount_other book foreign, fun _ => rfl⟩

theorem looksLike_setSupply_other (book : Book) {symbol : String} {token : Token}
    (registered : book.tokens.get? symbol = some token) (foreign : token.owner ≠ observer)
    (supply : Amount) : book.LooksLike observer (book.setSupply symbol token supply) := by
  refine ⟨rfl, fun another => ?_⟩
  rw [setSupply, withToken, SortedMap.get?_insert]
  split
  next same =>
    rw [same, registered, Option.map_some, Option.map_some, Token.shownTo, Token.shownTo,
      if_neg foreign, if_neg foreign]
  next => rfl

theorem Complete.looksLike_setUnfrozen_other (complete : book.Complete) {address : Address}
    (foreign : observer ≠ address) (symbol : String) (amount : Amount) :
    book.LooksLike observer (book.setUnfrozen address symbol amount) := by
  refine book.looksLike_withAccount_other ?_
  show observer ≠ (book.account address).address
  rwa [complete.address_account]

theorem Complete.looksLike_setBuckets_other (complete : book.Complete) {address : Address}
    (foreign : observer ≠ address) (symbol : String) (unfrozen frozen : Amount) :
    book.LooksLike observer (book.setBuckets address symbol unfrozen frozen) := by
  refine book.looksLike_withAccount_other ?_
  show observer ≠ (book.account address).address
  rwa [complete.address_account]

/-- An order changes nothing that others are shown. -/
theorem Posted.looksLike_other {receipt : Receipt}
    (posted : Posted params candidate nonce book (.order kind terms) receipt after next)
    (complete : book.Complete) (foreign : observer ≠ terms.signer) :
    book.LooksLike observer after := by
  cases posted with
  | mint valid registered owned mintable parsed fits supplyFits =>
    exact (complete.looksLike_setUnfrozen_other foreign _ _).trans
      ((book.setUnfrozen _ _ _).looksLike_setSupply_other registered
        (owned.trans_ne foreign.symm) _)
  | burn valid registered owned parsed enough supplyEnough =>
    exact (complete.looksLike_setUnfrozen_other foreign _ _).trans
      ((book.setUnfrozen _ _ _).looksLike_setSupply_other registered
        (owned.trans_ne foreign.symm) _)
  | freeze valid parsed enough fits => exact complete.looksLike_setBuckets_other foreign _ _ _
  | unfreeze valid parsed enough fits => exact complete.looksLike_setBuckets_other foreign _ _ _

/-! ### Two orders -/

/-- What a request comes to, and the book that it leaves. -/
def fulfil (params : Params) (candidate : UInt64 → String → String) (nonce : UInt64)
    (request : Request) (book : Book) : Except Fault Receipt × Book :=
  match book.post params candidate nonce request with
  | .error fault => (.error fault, book)
  | .ok (receipt, after, _) => (.ok receipt, after)

theorem Complete.fulfil (complete : book.Complete) (request : Request) :
    (book.fulfil params candidate nonce request).2.Complete := by
  rw [Book.fulfil]
  cases posted : book.post params candidate nonce request with
  | error fault => exact complete
  | ok result => exact (posted_of_post posted).complete complete

theorem NamesSupply.fulfil (names : book.NamesSupply) (request : Request) :
    (book.fulfil params candidate nonce request).2.NamesSupply := by
  rw [Book.fulfil]
  cases posted : book.post params candidate nonce request with
  | error fault => exact names
  | ok result => exact (posted_of_post posted).namesSupply names

/-- An order proposes no symbol. -/
theorem Posted.nonce_eq {receipt : Receipt}
    (posted : Posted params candidate nonce book (.order kind terms) receipt after next) :
    next = nonce := by
  cases posted <;> rfl

/-- The signer of an order gets the same from two books that show the signer the same. -/
theorem LooksLike.fulfil (alike : book.LooksLike terms.signer other) (kind : OrderKind) :
    (other.fulfil params candidate nonce (.order kind terms)).1 =
        (book.fulfil params candidate nonce (.order kind terms)).1 ∧
      (book.fulfil params candidate nonce (.order kind terms)).2.LooksLike terms.signer
        (other.fulfil params candidate nonce (.order kind terms)).2 := by
  cases valid : (Request.order kind terms).validate with
  | error fault =>
    have refused (book : Book) :
        book.fulfil params candidate nonce (.order kind terms) = (.error fault, book) := by
      rw [Book.fulfil, post, valid]
      rfl
    rw [refused, refused]
    exact ⟨rfl, alike⟩
  | ok _ =>
    rw [Book.fulfil, Book.fulfil, post_order _ _ _ _ valid, post_order _ _ _ _ valid]
    have ordered : SameResult terms.signer (book.order params kind terms)
        (other.order params kind terms) := alike.order kind
    generalize book.order params kind terms = result at ordered
    generalize other.order params kind terms = otherResult at ordered
    cases ordered with
    | fault fault => exact ⟨rfl, alike⟩
    | receipt receipt after => exact ⟨rfl, after⟩

/-- An order leaves a book that looks the same to everybody but the signer. -/
theorem Complete.looksLike_fulfil_other (complete : book.Complete)
    (foreign : observer ≠ terms.signer) (kind : OrderKind) :
    book.LooksLike observer (book.fulfil params candidate nonce (.order kind terms)).2 := by
  rw [Book.fulfil]
  cases posted : book.post params candidate nonce (.order kind terms) with
  | error fault => exact .refl _ _
  | ok result => exact (posted_of_post posted).looksLike_other complete foreign

section Pair

variable {first second : OrderKind} {firstTerms secondTerms : Order}

/-- The signer of the first of two orders cannot tell whether the second has come before. -/
theorem Complete.looksLike_first (complete : book.Complete)
    (apart : firstTerms.signer ≠ secondTerms.signer) (first second : OrderKind) :
    ((book.fulfil params candidate nonce (.order first firstTerms)).2.fulfil params candidate nonce
        (.order second secondTerms)).2.LooksLike firstTerms.signer
      ((book.fulfil params candidate nonce (.order second secondTerms)).2.fulfil params candidate
        nonce (.order first firstTerms)).2 :=
  ((complete.fulfil _).looksLike_fulfil_other apart second).symm.trans
    ((complete.looksLike_fulfil_other apart second).fulfil first).2

/-- An order by somebody else does not change what an order comes to. -/
theorem Complete.outcome_fulfil (complete : book.Complete)
    (apart : firstTerms.signer ≠ secondTerms.signer) (first second : OrderKind) :
    ((book.fulfil params candidate nonce (.order second secondTerms)).2.fulfil params candidate
        nonce (.order first firstTerms)).1 =
      (book.fulfil params candidate nonce (.order first firstTerms)).1 :=
  ((complete.looksLike_fulfil_other apart second).fulfil first).1

/-- To everybody else, the book looks the same after both orders. -/
theorem Complete.looksLike_both (complete : book.Complete)
    (notFirst : observer ≠ firstTerms.signer) (notSecond : observer ≠ secondTerms.signer)
    (first second : OrderKind) :
    book.LooksLike observer
      ((book.fulfil params candidate nonce (.order first firstTerms)).2.fulfil params candidate
        nonce (.order second secondTerms)).2 :=
  (complete.looksLike_fulfil_other notFirst first).trans
    ((complete.fulfil _).looksLike_fulfil_other notSecond second)

/-- Two orders by different signers leave the same book, whichever comes first. -/
theorem Complete.fulfil_comm (complete : book.Complete)
    (apart : firstTerms.signer ≠ secondTerms.signer) (first second : OrderKind) :
    ((book.fulfil params candidate nonce (.order first firstTerms)).2.fulfil params candidate nonce
        (.order second secondTerms)).2 =
      ((book.fulfil params candidate nonce (.order second secondTerms)).2.fulfil params candidate
        nonce (.order first firstTerms)).2 := by
  symm
  refine eq_of_looksLike fun observer => ?_
  by_cases isFirst : observer = firstTerms.signer
  · subst isFirst
    exact complete.looksLike_first apart first second
  by_cases isSecond : observer = secondTerms.signer
  · subst isSecond
    exact (complete.looksLike_first apart.symm second first).symm
  exact (complete.looksLike_both isFirst isSecond first second).symm.trans
    (complete.looksLike_both isSecond isFirst second first)

end Pair

end Book

end TokenLedger
