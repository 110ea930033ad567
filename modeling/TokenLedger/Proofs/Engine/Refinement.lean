/-
This file proves that the engine does to its stores what posting does to the book that they keep. A
step of a request works on bytes, in layers, and writes an account before it knows whether the rest
will succeed; posting decides first and works on maps. The two are related step by step: work shows
a book when the views of its layers are the bytes of the book, and each step takes work that shows
one book to work that shows the next. What is written before a failure is never compared, because it
is undone.
-/

import Mathlib
import TokenLedger.Proofs.Engine.Delivery
import TokenLedger.Proofs.Ledger.Moves

namespace TokenLedger

theorem Amount.addOrFault_eq (first second : Amount) :
    addOrFault first second =
      if Book.Overflows first second then .error (.badAmount .tooLarge)
      else .ok (first + second) := by
  rw [addOrFault, add?_eq]
  by_cases overflow : Book.Overflows first second
  · rw [if_pos overflow, if_pos overflow]
  · rw [if_neg overflow, if_neg overflow]

/-! ### Work that shows a book -/

/-- The views of the layers are the bytes of a book, and the generator has made as many proposals as
given. -/
structure Work.Shows (format : RecordFormat) (candidate : UInt64 → String → String) (book : Book)
    (nonce : UInt64) (work : Work) : Prop where
  tokens : work.tokens.view = book.tokenStore format
  accounts : work.accounts.view = book.accountStore format
  generator : work.generator = ⟨candidate, nonce⟩

/-- What a step has come to is what posting comes to: the same fault, or the same value and work
that shows the book after it. -/
def Agrees {α : Type} (format : RecordFormat) (candidate : UInt64 → String → String)
    (ran : Except Fault α × Work) (posted : Except Fault (α × Book × UInt64)) : Prop :=
  match posted with
  | .error fault => ran.1 = .error fault
  | .ok (value, book, nonce) => ran.1 = .ok value ∧ ran.2.Shows format candidate book nonce

variable {setup : Setup} {candidate : UInt64 → String → String} {book : Book} {nonce : UInt64}
  {work : Work}

theorem Work.Shows.put (shown : work.Shows setup.format candidate book nonce) (account : Account) :
    Work.Shows setup.format candidate (book.withAccount account) nonce
      { work with accounts := Holdings.put setup.format work.accounts account } :=
  ⟨shown.tokens, Holdings.view_put shown.accounts account, shown.generator⟩

theorem Work.Shows.set (shown : work.Shows setup.format candidate book nonce) (symbol : String)
    (token : Token) :
    Work.Shows setup.format candidate (book.withToken symbol token) nonce
      { work with tokens := work.tokens.set (utf8 symbol) (setup.format.encodeToken token) } :=
  ⟨Registry.view_set shown.tokens symbol token, shown.accounts, shown.generator⟩

namespace Step

/-! ### The steps on a book -/

theorem exec_credit_overflow (shown : work.Shows setup.format candidate book nonce)
    {address : Address} {symbol : String} {amount : Amount}
    (overflow : Book.Overflows (book.unfrozen address symbol) amount) :
    exec (credit setup address symbol amount) work = (.error (.badAmount .tooLarge), work) := by
  have none : (book.account address).coins.add? symbol amount = none :=
    (Coins.add?_eq _ symbol amount).trans (if_pos overflow)
  rw [credit, Holdings.credit, exec_revise, Holdings.get_of_view shown.accounts]
  simp only [bind, Except.bind, none]

theorem exec_credit_fits (shown : work.Shows setup.format candidate book nonce)
    {address : Address} {symbol : String} {amount : Amount}
    (fits : ¬ Book.Overflows (book.unfrozen address symbol) amount) :
    ∃ after, exec (credit setup address symbol amount) work =
        (.ok (book.unfrozen address symbol + amount), after) ∧
      after.Shows setup.format candidate
        (book.setUnfrozen address symbol (book.unfrozen address symbol + amount)) nonce := by
  have sum : (book.account address).coins.add? symbol amount =
      some (book.unfrozen address symbol + amount,
        (book.account address).coins.setAmount symbol (book.unfrozen address symbol + amount)) :=
    (Coins.add?_eq _ symbol amount).trans (if_neg fits)
  refine ⟨_, ?_, shown.put _⟩
  rw [credit, Holdings.credit, exec_revise, Holdings.get_of_view shown.accounts]
  simp only [bind, Except.bind, sum]
  rfl

theorem exec_debit_short (shown : work.Shows setup.format candidate book nonce)
    {address : Address} {symbol : String} {amount : Amount}
    (short : book.unfrozen address symbol < amount) :
    exec (debit setup address symbol amount) work =
      (.error (.balanceTooLow address symbol (book.unfrozen address symbol) amount), work) := by
  have none : Amount.sub? (book.unfrozen address symbol) amount = none := by
    rw [Amount.sub?_eq, if_pos short]
  rw [Book.unfrozen] at none
  rw [debit, Holdings.debit, exec_revise, Holdings.get_of_view shown.accounts]
  simp only [bind, Except.bind, none, Book.unfrozen]

theorem exec_debit_enough (shown : work.Shows setup.format candidate book nonce)
    {address : Address} {symbol : String} {amount : Amount}
    (enough : ¬ book.unfrozen address symbol < amount) :
    ∃ after, exec (debit setup address symbol amount) work =
        (.ok (book.unfrozen address symbol - amount), after) ∧
      after.Shows setup.format candidate
        (book.setUnfrozen address symbol (book.unfrozen address symbol - amount)) nonce := by
  have difference : Amount.sub? ((book.account address).unfrozen symbol) amount =
      some (book.unfrozen address symbol - amount) := by
    rw [Book.unfrozen] at enough ⊢
    rw [Amount.sub?_eq, if_neg enough]
  refine ⟨_, ?_, shown.put _⟩
  rw [debit, Holdings.debit, exec_revise, Holdings.get_of_view shown.accounts]
  simp only [bind, Except.bind, difference]

theorem exec_register_of_owner (shown : work.Shows setup.format candidate book nonce)
    (symbol : String) {token : Token} (owned : token.owner ≠ "") :
    ∃ after, exec (register setup symbol token) work = (.ok (), after) ∧
      after.Shows setup.format candidate (book.withToken symbol token) nonce := by
  refine ⟨_, ?_, shown.set symbol token⟩
  rw [exec_register, Registry.set, if_neg owned]

theorem exec_recordSupply_of_owner (shown : work.Shows setup.format candidate book nonce)
    {symbol : String} {token : Token} (registered : book.tokens.get? symbol = some token)
    (owned : token.owner ≠ "") (supply : Amount) :
    ∃ after, exec (recordSupply setup symbol supply) work = (.ok (), after) ∧
      after.Shows setup.format candidate (book.setSupply symbol token supply) nonce := by
  refine ⟨_, ?_, shown.set symbol { token with totalSupply := Coins.single symbol supply }⟩
  rw [exec_recordSupply, Registry.setTotalSupply, Registry.update,
    Registry.get_of_view shown.tokens, registered]
  simp only [bind, Except.bind, Registry.set, if_neg owned]

/-- The record of a token, if the signer owns it; nothing is written. -/
theorem exec_ownedToken_of_shows (shown : work.Shows setup.format candidate book nonce)
    (symbol : String) (signer : Address) :
    exec (ownedToken setup symbol signer) work =
      (match book.tokens.get? symbol with
        | none => .error (.tokenNotFound symbol)
        | some token =>
          if token.owner ≠ signer then .error (.notOwner token.owner signer) else .ok token,
        work) := by
  rw [exec_ownedToken, Registry.get_of_view shown.tokens]
  cases book.tokens.get? symbol with
  | none => rfl
  | some token =>
    simp only [ne_comm]

/-- The proposals that the generator makes are the numbers after the one it stands at. -/
theorem firstFree?_eq (book : Book) (candidate : UInt64 → String → String) (requested : String)
    (count : Nat) (nonce : UInt64) :
    SymbolGenerator.firstFree? (book.tokens.contains ·) requested count ⟨candidate, nonce⟩ =
      match book.firstFree? candidate nonce requested count with
      | some number => (some (candidate number requested), ⟨candidate, number⟩)
      | none => (none, ⟨candidate, nonce + UInt64.ofNat count⟩) := by
  induction count generalizing nonce with
  | zero => simp [SymbolGenerator.firstFree?, Book.firstFree?]
  | succ count inductionHypothesis =>
    rw [SymbolGenerator.firstFree?, SymbolGenerator.generate, Book.firstFree?_succ]
    by_cases free : book.isFree (candidate (nonce + 1) requested) = true
    · have taken := Book.isFree_iff.mp free
      simp only [free, if_true, if_pos taken]
    · have taken := mt Book.isFree_iff.mpr free
      have total : nonce + 1 + UInt64.ofNat count = nonce + UInt64.ofNat (count + 1) := by
        rw [UInt64.ofNat_add, UInt64.add_assoc, UInt64.add_comm 1]
        rfl
      simp only [free, Bool.false_eq_true, if_false, if_neg taken, inductionHypothesis, total]

/-- The symbol that is found is that of the first free proposal. -/
theorem exec_findSymbol_of_shows (shown : work.Shows setup.format candidate book nonce)
    (requested : String) :
    Agrees setup.format candidate (exec (findSymbol setup requested) work)
      (match book.firstFree? candidate nonce requested (Book.attempts setup.params).toNat with
        | none => .error (.noFreeSymbol requested (Book.attempts setup.params))
        | some number => .ok (candidate number requested, book, number)) := by
  have registered : Registry.isRegistered work.tokens = (book.tokens.contains ·) :=
    funext fun symbol => Registry.isRegistered_of_view shown.tokens symbol
  rw [exec_findSymbol, shown.generator, registered, firstFree?_eq, Book.attempts]
  cases book.firstFree? candidate nonce requested (max setup.params.maxSymbolAttempts 1).toNat with
  | none => rfl
  | some number => exact ⟨rfl, shown.tokens, shown.accounts, rfl⟩

/-! ### The requests on a book -/

theorem agrees_issue (shown : work.Shows setup.format candidate book nonce) {terms : Issuance}
    (valid : terms.validate = .ok ()) :
    Agrees setup.format candidate (exec (issue setup terms) work)
      (book.issue setup.params candidate nonce terms) := by
  have source := (Book.named_of_validate valid).1
  have search := exec_findSymbol_of_shows shown terms.symbol
  rw [issue, Book.issue]
  cases Amount.parseOrFault terms.totalSupply with
  | error fault => rfl
  | ok amount =>
    rw [exec_bind_of_ok (exec_lift (.ok amount) work)]
    show Agrees _ _ _ (match book.firstFree? candidate nonce terms.symbol _ with
      | none => _
      | some number => _)
    cases found : book.firstFree? candidate nonce terms.symbol
        (Book.attempts setup.params).toNat with
    | none =>
      rw [found] at search
      exact exec_bind_of_error search _
    | some number =>
      rw [found] at search
      obtain ⟨result, shown⟩ := search
      rw [exec_bind_of_ok (Prod.ext result rfl)]
      dsimp only
      split
      next overflow =>
        exact exec_bind_of_error (by rw [exec_credit_overflow shown overflow]) _
      next fits =>
        obtain ⟨credited, ran, shown⟩ := exec_credit_fits shown fits
        rw [exec_bind_of_ok ran]
        have owned : (Token.issued terms.name (candidate number terms.symbol) terms.symbol amount
          terms.source terms.mintable).owner ≠ "" := source
        obtain ⟨after, ran, shown⟩ := exec_register_of_owner shown (candidate number terms.symbol)
          owned
        rw [exec_bind_of_ok ran]
        exact ⟨rfl, shown⟩

/-- Agreement with a posting that leaves the number of proposals alone. -/
def AgreesAt {α : Type} (format : RecordFormat) (candidate : UInt64 → String → String)
    (nonce : UInt64) (ran : Except Fault α × Work) (posted : Except Fault (α × Book)) : Prop :=
  Agrees format candidate ran (posted.map fun (value, book) => (value, book, nonce))

/-- A step that starts by looking up a token that the signer has to own. -/
theorem agrees_ownedToken {α : Type} (shown : work.Shows setup.format candidate book nonce)
    (symbol : String) (signer : Address) {next : Token → Step α}
    {posted : Token → Except Fault (α × Book)}
    (agrees : ∀ token, book.tokens.get? symbol = some token → token.owner = signer →
      AgreesAt setup.format candidate nonce (exec (next token) work) (posted token)) :
    AgreesAt setup.format candidate nonce (exec (ownedToken setup symbol signer >>= next) work)
      (match book.tokens.get? symbol with
        | none => .error (.tokenNotFound symbol)
        | some token =>
          if token.owner ≠ signer then .error (.notOwner token.owner signer)
          else posted token) := by
  have looked := exec_ownedToken_of_shows shown symbol signer
  cases registered : book.tokens.get? symbol with
  | none =>
    rw [registered] at looked
    exact exec_bind_of_error (by rw [looked]) _
  | some token =>
    rw [registered] at looked
    dsimp only at looked ⊢
    split at looked
    next other =>
      rw [if_pos other]
      exact exec_bind_of_error (by rw [looked]) _
    next same =>
      rw [if_neg same, exec_bind_of_ok looked]
      exact agrees token registered (not_not.mp same)

theorem agrees_mint (shown : work.Shows setup.format candidate book nonce)
    (complete : book.Complete) (terms : Order) :
    AgreesAt setup.format candidate nonce (exec (mint setup terms) work)
      (book.mint setup.params terms) := by
  refine agrees_ownedToken shown _ _ fun token registered owner => ?_
  have owned := (complete.token _ _ registered).owner_ne
  split
  next refused => exact exec_bind_of_error rfl _
  next allowed =>
    cases Amount.parseOrFault terms.amount with
    | error fault => rfl
    | ok amount =>
      rw [exec_bind_of_ok (exec_lift (.ok amount) work), owner]
      change AgreesAt _ _ _ _ (if _ then _ else _)
      by_cases overflow : Book.Overflows (book.unfrozen terms.signer terms.symbol) amount
      · rw [if_pos (.inl overflow)]
        exact exec_bind_of_error (by rw [exec_credit_overflow shown overflow]) _
      obtain ⟨credited, ran, shown⟩ := exec_credit_fits shown overflow
      rw [exec_bind_of_ok ran, Amount.addOrFault_eq]
      by_cases supplyOverflow : Book.Overflows token.supply amount
      · rw [if_pos supplyOverflow, if_pos (Or.inr supplyOverflow)]
        exact exec_bind_of_error rfl _
      rw [if_neg (not_or.mpr ⟨overflow, supplyOverflow⟩), if_neg supplyOverflow,
        exec_bind_of_ok (exec_lift (.ok (token.supply + amount)) credited)]
      obtain ⟨after, ran, shown⟩ := exec_recordSupply_of_owner shown registered owned
        (token.supply + amount)
      rw [exec_bind_of_ok ran]
      exact ⟨rfl, shown⟩

theorem agrees_burn (shown : work.Shows setup.format candidate book nonce)
    (complete : book.Complete) (terms : Order) :
    AgreesAt setup.format candidate nonce (exec (burn setup terms) work) (book.burn terms) := by
  refine agrees_ownedToken shown _ _ fun token registered owner => ?_
  have owned := (complete.token _ _ registered).owner_ne
  cases Amount.parseOrFault terms.amount with
  | error fault => rfl
  | ok amount =>
    rw [exec_bind_of_ok (exec_lift (.ok amount) work), owner]
    change AgreesAt _ _ _ _ (if _ then _ else _)
    by_cases short : book.unfrozen terms.signer terms.symbol < amount
    · rw [if_pos short]
      exact exec_bind_of_error (by rw [exec_debit_short shown short]) _
    obtain ⟨debited, ran, shown⟩ := exec_debit_enough shown short
    rw [if_neg short, exec_bind_of_ok ran, Amount.sub?_eq]
    by_cases supplyShort : token.supply < amount
    · rw [if_pos supplyShort, if_pos supplyShort]
      rfl
    rw [if_neg supplyShort, if_neg supplyShort]
    obtain ⟨after, ran, shown⟩ := exec_recordSupply_of_owner shown registered owned
      (token.supply - amount)
    dsimp only
    rw [exec_bind_of_ok ran]
    exact ⟨rfl, shown⟩

end Step

/-- Freezing and unfreezing are checked to move a positive amount. -/
theorem ne_zero_of_validateMove {terms : Order} {amount : Amount}
    (valid : terms.validateMove = .ok ()) (parsed : Amount.parseOrFault terms.amount = .ok amount) :
    amount ≠ 0 := by
  have read := mapError_eq_ok_iff.mp parsed
  obtain ⟨positive, checked, _⟩ := bind_eq_ok valid
  have checked := mapError_eq_ok_iff.mp checked
  rintro rfl
  rw [Amount.parsePositive, read] at checked
  cases checked

namespace Step

theorem agrees_freeze (shown : work.Shows setup.format candidate book nonce)
    (complete : book.Complete) {terms : Order} (valid : terms.validateMove = .ok ()) :
    AgreesAt setup.format candidate nonce (exec (freeze setup terms) work) (book.freeze terms) := by
  rw [freeze, Book.freeze, exec_bind, exec_lift]
  cases parsed : Amount.parseOrFault terms.amount with
  | error fault => rfl
  | ok amount =>
    have positive := ne_zero_of_validateMove valid parsed
    change AgreesAt _ _ _ _ (if _ then _ else _)
    unfold Book.unfrozen Book.frozen
    dsimp only
    rw [exec_bind, Holdings.freeze, exec_revise, Holdings.get_of_view shown.accounts]
    simp only [bind, Except.bind, Account.freeze_eq, if_neg positive,
      complete.address_account]
    by_cases short : (book.account terms.signer).unfrozen terms.symbol < amount
    · simp only [if_pos short]
      rfl
    by_cases overflow : Book.Overflows ((book.account terms.signer).frozen terms.symbol) amount
    · simp only [if_neg short, if_pos overflow]
      rfl
    simp only [if_neg short, if_neg overflow, Except.map, Holdings.withBalances_setBuckets]
    exact ⟨rfl, shown.put _⟩

theorem agrees_unfreeze (shown : work.Shows setup.format candidate book nonce)
    (complete : book.Complete) {terms : Order} (valid : terms.validateMove = .ok ()) :
    AgreesAt setup.format candidate nonce (exec (unfreeze setup terms) work)
      (book.unfreeze terms) := by
  rw [unfreeze, Book.unfreeze, exec_bind, exec_lift]
  cases parsed : Amount.parseOrFault terms.amount with
  | error fault => rfl
  | ok amount =>
    have positive := ne_zero_of_validateMove valid parsed
    change AgreesAt _ _ _ _ (if _ then _ else _)
    unfold Book.unfrozen Book.frozen
    dsimp only
    rw [exec_bind, Holdings.unfreeze, exec_revise, Holdings.get_of_view shown.accounts]
    simp only [bind, Except.bind, Account.unfreeze_eq, if_neg positive,
      complete.address_account]
    by_cases short : (book.account terms.signer).frozen terms.symbol < amount
    · simp only [if_pos short]
      rfl
    by_cases overflow : Book.Overflows ((book.account terms.signer).unfrozen terms.symbol) amount
    · simp only [if_neg short, if_pos overflow]
      rfl
    simp only [if_neg short, if_neg overflow, Except.map, Holdings.withBalances_setBuckets]
    exact ⟨rfl, shown.put _⟩

/-- Carrying out a request that has passed its checks is posting it. -/
theorem agrees_apply (shown : work.Shows setup.format candidate book nonce)
    (complete : book.Complete) {request : Request} (valid : request.validate = .ok ()) :
    Agrees setup.format candidate (exec (apply setup request) work)
      (book.post setup.params candidate nonce request) := by
  cases request with
  | issue terms =>
    rw [Book.post_issue _ _ _ book valid]
    exact agrees_issue shown valid
  | order kind terms =>
    have ordered : AgreesAt setup.format candidate nonce
        (exec (apply setup (.order kind terms)) work) (book.order setup.params kind terms) := by
      cases kind with
      | mint => exact agrees_mint shown complete terms
      | burn => exact agrees_burn shown complete terms
      | freeze => exact agrees_freeze shown complete valid
      | unfreeze => exact agrees_unfreeze shown complete valid
    rw [Book.post_order _ _ _ book valid]
    exact ordered

end Step

/-! ### Delivery on a book -/

namespace Engine

/-- The stores of an engine are the bytes of a book. -/
def Keeps (engine : Engine) (book : Book) : Prop :=
  engine.store = book.stored engine.setup.format

variable {engine : Engine}

theorem Keeps.shows_work (kept : engine.Keeps book) :
    engine.work.Shows engine.setup.format engine.generator.candidate book
      engine.generator.nonce := by
  refine ⟨?_, ?_, rfl⟩
  · show (LayeredStore.ofStore engine.store.tokens).begin.view = _
    rw [LayeredStore.view_begin, LayeredStore.view_ofStore, kept]
    rfl
  · show (LayeredStore.ofStore engine.store.accounts).begin.view = _
    rw [LayeredStore.view_begin, LayeredStore.view_ofStore, kept]
    rfl

/-- A request comes to what posting it comes to. The check of the records that it leaves always
passes. -/
theorem Keeps.attempted (kept : engine.Keeps book) (complete : book.Complete)
    (names : book.NamesSupply) (request : Request) :
    Agrees engine.setup.format engine.generator.candidate (engine.attempted request)
      (book.post engine.setup.params engine.generator.candidate engine.generator.nonce
        request) := by
  unfold Engine.attempted attempt
  cases valid : request.validate with
  | error fault =>
    unfold Book.post
    rw [valid]
    exact Step.exec_bind_of_error rfl _
  | ok _ =>
    rw [Step.exec_bind_of_ok (Step.exec_lift (.ok ()) engine.work)]
    have applied := Step.agrees_apply kept.shows_work complete valid
    cases posted : book.post engine.setup.params engine.generator.candidate
        engine.generator.nonce request with
    | error fault =>
      rw [posted] at applied
      exact Step.exec_bind_of_error applied _
    | ok result =>
      obtain ⟨receipt, after, next⟩ := result
      rw [posted] at applied
      obtain ⟨result, shown⟩ := applied
      have succeeded := Book.posted_of_post posted
      have passed := (checkRecords_eq_ok_iff (succeeded.complete complete) shown.tokens
        shown.accounts).mpr (succeeded.namesSupply names)
      rw [Step.exec_bind_of_ok (Prod.ext result rfl), Step.exec_bind_of_ok (Step.exec_get _),
        passed, Step.exec_bind_of_ok (Step.exec_lift (.ok ()) _)]
      exact ⟨rfl, shown⟩

/-- Delivering an accepted envelope is posting its request: a refusal uses up the place in the
sequence, and a receipt stores the bytes of the next book. -/
theorem Keeps.deliver (kept : engine.Keeps book) (complete : book.Complete)
    (names : book.NamesSupply) {envelope : Envelope}
    (accepted : engine.checkEnvelope envelope = .ok ()) :
    engine.deliver envelope =
      match book.post engine.setup.params engine.generator.candidate engine.generator.nonce
          envelope.request with
      | .error fault => (.error fault, { engine with lastSequence := envelope.sequence })
      | .ok (receipt, after, next) =>
        (.ok receipt,
          { engine with
            store := after.stored engine.setup.format
            generator := ⟨engine.generator.candidate, next⟩
            lastSequence := envelope.sequence }) := by
  have attempted := kept.attempted complete names envelope.request
  have within := engine.attempted_within envelope.request
  have mild : Book.Mild (book.post engine.setup.params engine.generator.candidate
      engine.generator.nonce envelope.request) := Book.mild_post book envelope.request
  rw [deliver_eq, accepted]
  cases posted : book.post engine.setup.params engine.generator.candidate engine.generator.nonce
      envelope.request with
  | error fault =>
    rw [posted] at attempted
    have outcome : (engine.attempted envelope.request).1 = .error fault := attempted
    have notFatal : Outcome.isFatal (.error fault) = false := mild fault posted
    simp only [outcome, notFatal, Bool.false_eq_true, if_false]
    rw [settle_error within]
  | ok result =>
    obtain ⟨receipt, after, next⟩ := result
    rw [posted] at attempted
    obtain ⟨outcome, shown⟩ := attempted
    have notFatal : Outcome.isFatal (.ok receipt) = false := rfl
    have stores : written (engine.attempted envelope.request).2 =
        after.stored engine.setup.format := by
      rw [written, shown.tokens, shown.accounts, Book.stored]
    simp only [outcome, notFatal, Bool.false_eq_true, if_false]
    rw [settle_ok within, stores, shown.generator]

end Engine

end TokenLedger
