/-
This file says what a request does to a book. A request is posted as a whole: every check comes
before the first change, and a request that fails any of them changes nothing. The engine works
differently, since it writes an account before it looks at the supply, and it is shown elsewhere to
come to the same. Posting keeps the rules for records, and it is refused only for causes that are
not fatal.
-/

import Mathlib
import TokenLedger.Engine.Transition
import TokenLedger.Proofs.Ledger.Book

namespace TokenLedger.Book

variable (params : Params) (candidate : UInt64 → String → String) (nonce : UInt64)

/-! ### Posting a request -/

/-- Whether a proposed symbol can be given to a new token: an empty one never is. -/
def isFree (book : Book) (symbol : String) : Bool :=
  symbol ≠ "" && !book.tokens.contains symbol

theorem isFree_iff {book : Book} {symbol : String} :
    book.isFree symbol = true ↔ symbol ≠ "" ∧ book.tokens.contains symbol = false := by
  rw [isFree, Bool.and_eq_true, decide_eq_true_iff, Bool.not_eq_true']

/-- How many symbols an issuance tries. -/
def attempts : UInt32 := max params.maxSymbolAttempts 1

/-- The number of the first proposal after the given number, among as many as given, whose symbol is
free. -/
def firstFree? (book : Book) (requested : String) (count : Nat) : Option UInt64 :=
  ((List.range count).map fun index => nonce + UInt64.ofNat (index + 1)).find? fun number =>
    book.isFree (candidate number requested)

/-- The proposals are looked at one by one. -/
theorem firstFree?_succ (book : Book) (requested : String) (count : Nat) :
    book.firstFree? candidate nonce requested (count + 1) =
      if book.isFree (candidate (nonce + 1) requested) then some (nonce + 1)
      else book.firstFree? candidate (nonce + 1) requested count := by
  have later : ((List.range count).map Nat.succ).map
      (fun index => nonce + UInt64.ofNat (index + 1)) =
      (List.range count).map fun index => nonce + 1 + UInt64.ofNat (index + 1) := by
    rw [List.map_map]
    refine List.map_congr_left fun index _ => ?_
    show nonce + UInt64.ofNat (index + 1 + 1) = nonce + 1 + UInt64.ofNat (index + 1)
    rw [UInt64.ofNat_add, UInt64.add_assoc, UInt64.add_comm 1]
    rfl
  have first : nonce + UInt64.ofNat (0 + 1) = nonce + 1 := rfl
  rw [firstFree?, List.range_succ_eq_map, List.map_cons, List.find?_cons, later, first]
  cases book.isFree (candidate (nonce + 1) requested) <;> rfl

/-- The symbol that is found is not empty and not registered. -/
theorem isFree_of_firstFree? {book : Book} {requested : String} {count : Nat} {number : UInt64}
    (found : book.firstFree? candidate nonce requested count = some number) :
    candidate number requested ≠ "" ∧ book.tokens.get? (candidate number requested) = none := by
  have free := List.find?_some found
  obtain ⟨notEmpty, unregistered⟩ := isFree_iff.mp free
  exact ⟨notEmpty, Option.isNone_iff_eq_none.mp (Option.isSome_eq_false_iff.mp unregistered)⟩

/-- Whether a sum of two amounts is no amount. -/
def Overflows (first second : Amount) : Prop :=
  UInt64.size ≤ first.toNat + second.toNat

instance (first second : Amount) : Decidable (Overflows first second) :=
  inferInstanceAs (Decidable (UInt64.size ≤ first.toNat + second.toNat))

theorem toNat_add_of_fits {first second : Amount} (fits : ¬ Overflows first second) :
    (first + second).toNat = first.toNat + second.toNat := by
  rw [UInt64.toNat_add]
  exact Nat.mod_eq_of_lt (Nat.lt_of_not_le fits)

/-- Change what an address can spend of a symbol. -/
def setUnfrozen (book : Book) (address : Address) (symbol : String) (amount : Amount) : Book :=
  book.withAccount ((book.account address).setUnfrozen symbol amount)

/-- Change both amounts of a symbol that an address holds. -/
def setBuckets (book : Book) (address : Address) (symbol : String) (unfrozen frozen : Amount) :
    Book :=
  book.withAccount (((book.account address).setUnfrozen symbol unfrozen).setFrozen symbol frozen)

/-- Change the supply of a token. Nothing but the token's own denomination is kept in it. -/
def setSupply (book : Book) (symbol : String) (token : Token) (supply : Amount) : Book :=
  book.withToken symbol { token with totalSupply := Coins.single symbol supply }

/-- The token that an issuance records. -/
def issued (terms : Issuance) (symbol : String) (amount : Amount) : Token where
  owner := terms.source
  name := terms.name
  symbol := symbol
  originalSymbol := terms.symbol
  totalSupply := Coins.single symbol amount
  mintable := terms.mintable

/-- Issue a token under the first free symbol; with the book comes the number of the proposal. -/
def issue (book : Book) (terms : Issuance) : Except Fault (Receipt × Book × UInt64) := do
  let amount ← Amount.parseOrFault terms.totalSupply
  match book.firstFree? candidate nonce terms.symbol (attempts params).toNat with
  | none => .error (.noFreeSymbol terms.symbol (attempts params))
  | some number =>
    let symbol := candidate number terms.symbol
    let unfrozen := book.unfrozen terms.source symbol
    if Overflows unfrozen amount then .error (.badAmount .tooLarge)
    else
      .ok (.ofSupply Request.issueAction symbol terms.source amount amount,
        (book.setUnfrozen terms.source symbol (unfrozen + amount)).withToken symbol
          (issued terms symbol amount),
        number)

/-- Create units of a token for its owner. -/
def mint (book : Book) (terms : Order) : Except Fault (Receipt × Book) :=
  match book.tokens.get? terms.symbol with
  | none => .error (.tokenNotFound terms.symbol)
  | some token =>
    if token.owner ≠ terms.signer then .error (.notOwner token.owner terms.signer)
    else if params.enforceMintable ∧ token.mintable = false then
      .error (.notMintable terms.symbol)
    else do
      let amount ← Amount.parseOrFault terms.amount
      let unfrozen := book.unfrozen terms.signer terms.symbol
      if Overflows unfrozen amount ∨ Overflows token.supply amount then
        .error (.badAmount .tooLarge)
      else
        .ok (.ofSupply OrderKind.mint.action terms.symbol terms.signer amount
            (token.supply + amount),
          (book.setUnfrozen terms.signer terms.symbol (unfrozen + amount)).setSupply terms.symbol
            token (token.supply + amount))

/-- Destroy units that the owner of a token can spend. -/
def burn (book : Book) (terms : Order) : Except Fault (Receipt × Book) :=
  match book.tokens.get? terms.symbol with
  | none => .error (.tokenNotFound terms.symbol)
  | some token =>
    if token.owner ≠ terms.signer then .error (.notOwner token.owner terms.signer)
    else do
      let amount ← Amount.parseOrFault terms.amount
      let unfrozen := book.unfrozen terms.signer terms.symbol
      if unfrozen < amount then
        .error (.balanceTooLow terms.signer terms.symbol unfrozen amount)
      else if token.supply < amount then
        .error (.balanceTooLow terms.signer terms.symbol token.supply amount)
      else
        .ok (.ofSupply OrderKind.burn.action terms.symbol terms.signer amount
            (token.supply - amount),
          (book.setUnfrozen terms.signer terms.symbol (unfrozen - amount)).setSupply terms.symbol
            token (token.supply - amount))

/-- Freeze an amount that the signer can spend. -/
def freeze (book : Book) (terms : Order) : Except Fault (Receipt × Book) := do
  let amount ← Amount.parseOrFault terms.amount
  let unfrozen := book.unfrozen terms.signer terms.symbol
  let frozen := book.frozen terms.signer terms.symbol
  if unfrozen < amount then .error (.balanceTooLow terms.signer terms.symbol unfrozen amount)
  else if Overflows frozen amount then .error (.badAmount .tooLarge)
  else
    .ok (.ofMove OrderKind.freeze.action terms.symbol terms.signer amount (unfrozen - amount)
        (frozen + amount),
      book.setBuckets terms.signer terms.symbol (unfrozen - amount) (frozen + amount))

/-- Give a frozen amount back to the signer. -/
def unfreeze (book : Book) (terms : Order) : Except Fault (Receipt × Book) := do
  let amount ← Amount.parseOrFault terms.amount
  let unfrozen := book.unfrozen terms.signer terms.symbol
  let frozen := book.frozen terms.signer terms.symbol
  if frozen < amount then .error (.frozenBalanceTooLow terms.signer terms.symbol frozen amount)
  else if Overflows unfrozen amount then .error (.badAmount .tooLarge)
  else
    .ok (.ofMove OrderKind.unfreeze.action terms.symbol terms.signer amount (unfrozen + amount)
        (frozen - amount),
      book.setBuckets terms.signer terms.symbol (unfrozen + amount) (frozen - amount))

/-- Carry out an order. -/
def order (book : Book) : OrderKind → Order → Except Fault (Receipt × Book)
  | .mint, terms => book.mint params terms
  | .burn, terms => book.burn terms
  | .freeze, terms => book.freeze terms
  | .unfreeze, terms => book.unfreeze terms

/-- Post a request: the receipt, the book and the number of proposals after it. -/
def post (book : Book) (request : Request) : Except Fault (Receipt × Book × UInt64) := do
  request.validate
  match request with
  | .issue terms => book.issue params candidate nonce terms
  | .order kind terms =>
    let (receipt, book) ← book.order params kind terms
    return (receipt, book, nonce)

theorem post_issue (book : Book) {terms : Issuance} (valid : terms.validate = .ok ()) :
    book.post params candidate nonce (.issue terms) = book.issue params candidate nonce terms := by
  have accepted : (Request.issue terms).validate = .ok () := valid
  rw [post, accepted]
  rfl

theorem post_order (book : Book) {kind : OrderKind} {terms : Order}
    (valid : (Request.order kind terms).validate = .ok ()) :
    book.post params candidate nonce (.order kind terms) =
      (book.order params kind terms).map fun ordered => (ordered.1, ordered.2, nonce) := by
  rw [post, valid]
  show (book.order params kind terms >>= fun ordered => pure (ordered.1, ordered.2, nonce)) = _
  cases book.order params kind terms <;> rfl

/-! ### What a posting has done -/

/-- The postings that succeed, with every check that they have passed. -/
inductive Posted (book : Book) : Request → Receipt → Book → UInt64 → Prop
  | issue {terms : Issuance} {amount : Amount} {number : UInt64}
      (valid : terms.validate = .ok ())
      (parsed : Amount.parseOrFault terms.totalSupply = .ok amount)
      (found : book.firstFree? candidate nonce terms.symbol (attempts params).toNat = some number)
      (fits : ¬ Overflows (book.unfrozen terms.source (candidate number terms.symbol)) amount) :
      Posted book (.issue terms)
        (.ofSupply Request.issueAction (candidate number terms.symbol) terms.source amount amount)
        ((book.setUnfrozen terms.source (candidate number terms.symbol)
            (book.unfrozen terms.source (candidate number terms.symbol) + amount)).withToken
          (candidate number terms.symbol) (issued terms (candidate number terms.symbol) amount))
        number
  | mint {terms : Order} {token : Token} {amount : Amount}
      (valid : terms.validateSupplyChange .noMinter = .ok ())
      (registered : book.tokens.get? terms.symbol = some token)
      (owned : token.owner = terms.signer)
      (mintable : params.enforceMintable = true → token.mintable = true)
      (parsed : Amount.parseOrFault terms.amount = .ok amount)
      (fits : ¬ Overflows (book.unfrozen terms.signer terms.symbol) amount)
      (supplyFits : ¬ Overflows token.supply amount) :
      Posted book (.order .mint terms)
        (.ofSupply OrderKind.mint.action terms.symbol terms.signer amount (token.supply + amount))
        ((book.setUnfrozen terms.signer terms.symbol
            (book.unfrozen terms.signer terms.symbol + amount)).setSupply terms.symbol token
          (token.supply + amount))
        nonce
  | burn {terms : Order} {token : Token} {amount : Amount}
      (valid : terms.validateSupplyChange .noSource = .ok ())
      (registered : book.tokens.get? terms.symbol = some token)
      (owned : token.owner = terms.signer)
      (parsed : Amount.parseOrFault terms.amount = .ok amount)
      (enough : ¬ book.unfrozen terms.signer terms.symbol < amount)
      (supplyEnough : ¬ token.supply < amount) :
      Posted book (.order .burn terms)
        (.ofSupply OrderKind.burn.action terms.symbol terms.signer amount (token.supply - amount))
        ((book.setUnfrozen terms.signer terms.symbol
            (book.unfrozen terms.signer terms.symbol - amount)).setSupply terms.symbol token
          (token.supply - amount))
        nonce
  | freeze {terms : Order} {amount : Amount}
      (valid : terms.validateMove = .ok ())
      (parsed : Amount.parseOrFault terms.amount = .ok amount)
      (enough : ¬ book.unfrozen terms.signer terms.symbol < amount)
      (fits : ¬ Overflows (book.frozen terms.signer terms.symbol) amount) :
      Posted book (.order .freeze terms)
        (.ofMove OrderKind.freeze.action terms.symbol terms.signer amount
          (book.unfrozen terms.signer terms.symbol - amount)
          (book.frozen terms.signer terms.symbol + amount))
        (book.setBuckets terms.signer terms.symbol
          (book.unfrozen terms.signer terms.symbol - amount)
          (book.frozen terms.signer terms.symbol + amount))
        nonce
  | unfreeze {terms : Order} {amount : Amount}
      (valid : terms.validateMove = .ok ())
      (parsed : Amount.parseOrFault terms.amount = .ok amount)
      (enough : ¬ book.frozen terms.signer terms.symbol < amount)
      (fits : ¬ Overflows (book.unfrozen terms.signer terms.symbol) amount) :
      Posted book (.order .unfreeze terms)
        (.ofMove OrderKind.unfreeze.action terms.symbol terms.signer amount
          (book.unfrozen terms.signer terms.symbol + amount)
          (book.frozen terms.signer terms.symbol - amount))
        (book.setBuckets terms.signer terms.symbol
          (book.unfrozen terms.signer terms.symbol + amount)
          (book.frozen terms.signer terms.symbol - amount))
        nonce

variable {params candidate nonce}

theorem posted_issue {book after : Book} {terms : Issuance} {receipt : Receipt} {next : UInt64}
    (valid : terms.validate = .ok ())
    (run : book.issue params candidate nonce terms = .ok (receipt, after, next)) :
    Posted params candidate nonce book (.issue terms) receipt after next := by
  obtain ⟨amount, parsed, run⟩ := bind_eq_ok run
  split at run
  next => cases run
  next number found =>
    obtain ⟨fits, run⟩ := ite_error_eq_ok_iff.mp run
    cases run
    exact .issue valid parsed found fits

theorem posted_mint {book after : Book} {terms : Order} {receipt : Receipt}
    (valid : terms.validateSupplyChange .noMinter = .ok ())
    (run : book.mint params terms = .ok (receipt, after)) :
    Posted params candidate nonce book (.order .mint terms) receipt after nonce := by
  rw [mint] at run
  split at run
  next => cases run
  next token registered =>
    obtain ⟨owned, run⟩ := ite_error_eq_ok_iff.mp run
    obtain ⟨mintable, run⟩ := ite_error_eq_ok_iff.mp run
    obtain ⟨amount, parsed, run⟩ := bind_eq_ok run
    obtain ⟨fits, run⟩ := ite_error_eq_ok_iff.mp run
    cases run
    obtain ⟨unfrozenFits, supplyFits⟩ := not_or.mp fits
    refine .mint valid registered (not_not.mp owned) (fun enforced => ?_) parsed unfrozenFits
      supplyFits
    exact Bool.eq_true_of_not_eq_false fun refused => mintable ⟨enforced, refused⟩

theorem posted_burn {book after : Book} {terms : Order} {receipt : Receipt}
    (valid : terms.validateSupplyChange .noSource = .ok ())
    (run : book.burn terms = .ok (receipt, after)) :
    Posted params candidate nonce book (.order .burn terms) receipt after nonce := by
  rw [burn] at run
  split at run
  next => cases run
  next token registered =>
    obtain ⟨owned, run⟩ := ite_error_eq_ok_iff.mp run
    obtain ⟨amount, parsed, run⟩ := bind_eq_ok run
    obtain ⟨enough, run⟩ := ite_error_eq_ok_iff.mp run
    obtain ⟨supplyEnough, run⟩ := ite_error_eq_ok_iff.mp run
    cases run
    exact .burn valid registered (not_not.mp owned) parsed enough supplyEnough

theorem posted_freeze {book after : Book} {terms : Order} {receipt : Receipt}
    (valid : terms.validateMove = .ok ()) (run : book.freeze terms = .ok (receipt, after)) :
    Posted params candidate nonce book (.order .freeze terms) receipt after nonce := by
  obtain ⟨amount, parsed, run⟩ := bind_eq_ok run
  obtain ⟨enough, run⟩ := ite_error_eq_ok_iff.mp run
  obtain ⟨fits, run⟩ := ite_error_eq_ok_iff.mp run
  cases run
  exact .freeze valid parsed enough fits

theorem posted_unfreeze {book after : Book} {terms : Order} {receipt : Receipt}
    (valid : terms.validateMove = .ok ()) (run : book.unfreeze terms = .ok (receipt, after)) :
    Posted params candidate nonce book (.order .unfreeze terms) receipt after nonce := by
  obtain ⟨amount, parsed, run⟩ := bind_eq_ok run
  obtain ⟨enough, run⟩ := ite_error_eq_ok_iff.mp run
  obtain ⟨fits, run⟩ := ite_error_eq_ok_iff.mp run
  cases run
  exact .unfreeze valid parsed enough fits

/-- A posting that succeeds is one of the five. -/
theorem posted_of_post {book after : Book} {request : Request} {receipt : Receipt} {next : UInt64}
    (run : book.post params candidate nonce request = .ok (receipt, after, next)) :
    Posted params candidate nonce book request receipt after next := by
  obtain ⟨⟨⟩, valid, run⟩ := bind_eq_ok run
  cases request with
  | issue terms => exact posted_issue valid run
  | order kind terms =>
    obtain ⟨⟨receipt, after⟩, ordered, run⟩ := bind_eq_ok run
    cases run
    cases kind with
    | mint => exact posted_mint valid ordered
    | burn => exact posted_burn valid ordered
    | freeze => exact posted_freeze valid ordered
    | unfreeze => exact posted_unfreeze valid ordered

/-! ### Postings keep the rules -/

theorem hasZero_eq_false_iff {coins : Coins} :
    coins.hasZero = false ↔ ∀ denomination, coins.get? denomination ≠ some 0 := by
  rw [Coins.hasZero, List.any_eq_false]
  constructor
  · intro noZero denomination found
    have member := SortedMap.mem_entries_iff.mpr found
    exact noZero 0 (List.mem_map_of_mem member) (beq_self_eq_true _)
  · intro noZero amount member isZero
    obtain ⟨⟨denomination, value⟩, entry, same⟩ := List.mem_map.mp member
    have zero : value = 0 := (same : value = amount).trans (eq_of_beq isZero)
    exact noZero denomination (zero ▸ SortedMap.mem_entries_iff.mp entry)

/-- Setting an amount leaves no zero behind. -/
theorem hasZero_setAmount {coins : Coins} (noZero : coins.hasZero = false) (denomination : String)
    (amount : Amount) : (coins.setAmount denomination amount).hasZero = false := by
  rw [hasZero_eq_false_iff] at noZero ⊢
  intro other
  rw [Coins.setAmount]
  split
  next =>
    rw [SortedMap.get?_erase]
    split
    next => simp
    next => exact noZero other
  next notZero =>
    rw [SortedMap.get?_insert]
    split
    next => exact fun same => notZero (Option.some.inj same)
    next => exact noZero other

theorem hasZero_setUnfrozen {account : Account} (noZero : account.hasZero = false) (symbol : String)
    (amount : Amount) : (account.setUnfrozen symbol amount).hasZero = false := by
  rw [Account.hasZero, Bool.or_eq_false_iff] at noZero ⊢
  exact ⟨hasZero_setAmount noZero.1 symbol amount, noZero.2⟩

theorem hasZero_setFrozen {account : Account} (noZero : account.hasZero = false) (symbol : String)
    (amount : Amount) : (account.setFrozen symbol amount).hasZero = false := by
  rw [Account.hasZero, Bool.or_eq_false_iff] at noZero ⊢
  exact ⟨noZero.1, hasZero_setAmount noZero.2 symbol amount⟩

theorem Complete.setUnfrozen {book : Book} (complete : book.Complete) {address : Address}
    (named : address ≠ "") (symbol : String) (amount : Amount) :
    (book.setUnfrozen address symbol amount).Complete := by
  refine complete.withAccount ?_ (hasZero_setUnfrozen (complete.hasZero_account address) _ _)
  show (book.account address).address ≠ ""
  rwa [complete.address_account]

theorem Complete.setBuckets {book : Book} (complete : book.Complete) {address : Address}
    (named : address ≠ "") (symbol : String) (unfrozen frozen : Amount) :
    (book.setBuckets address symbol unfrozen frozen).Complete := by
  refine complete.withAccount ?_
    (hasZero_setFrozen (hasZero_setUnfrozen (complete.hasZero_account address) _ _) _ _)
  show (book.account address).address ≠ ""
  rwa [complete.address_account]

@[simp] theorem contains_single (symbol : String) (amount : Amount) :
    (Coins.single symbol amount).contains symbol = true := by
  rw [Coins.single, SortedMap.contains_eq_isSome, SortedMap.get?_insert_self, Option.isSome_some]

theorem Complete.setSupply {book : Book} (complete : book.Complete) {symbol : String}
    {token : Token} (recorded : token.Complete symbol) (supply : Amount) :
    (book.setSupply symbol token supply).Complete :=
  complete.withToken ⟨recorded.symbol_eq, recorded.symbol_ne, recorded.owner_ne, recorded.name_ne,
    recorded.originalSymbol_ne⟩

theorem NamesSupply.setSupply {book : Book} (names : book.NamesSupply) (symbol : String)
    (token : Token) (supply : Amount) : (book.setSupply symbol token supply).NamesSupply :=
  names.withToken (contains_single symbol supply)

theorem named_of_validate {terms : Issuance} (valid : terms.validate = .ok ()) :
    terms.source ≠ "" ∧ terms.name ≠ "" ∧ terms.symbol ≠ "" := by
  obtain ⟨source, valid⟩ := ite_error_eq_ok_iff.mp valid
  obtain ⟨named, _⟩ := ite_error_eq_ok_iff.mp valid
  exact ⟨source, fun empty => named (.inl empty), fun empty => named (.inr (.inl empty))⟩

theorem signed_of_validateSupplyChange {terms : Order} {flaw : RequestFlaw}
    (valid : terms.validateSupplyChange flaw = .ok ()) : terms.signer ≠ "" :=
  (ite_error_eq_ok_iff.mp valid).1

theorem signed_of_validateMove {terms : Order} (valid : terms.validateMove = .ok ()) :
    terms.signer ≠ "" := by
  obtain ⟨amount, parsed, valid⟩ := bind_eq_ok valid
  obtain ⟨_, valid⟩ := ite_error_eq_ok_iff.mp valid
  exact (ite_error_eq_ok_iff.mp valid).1

theorem Posted.complete {book after : Book} {request : Request} {receipt : Receipt} {next : UInt64}
    (posted : Posted params candidate nonce book request receipt after next)
    (complete : book.Complete) : after.Complete := by
  cases posted with
  | issue valid parsed found fits =>
    obtain ⟨source, name, original⟩ := named_of_validate valid
    have symbol := (isFree_of_firstFree? _ _ found).1
    exact (complete.setUnfrozen source _ _).withToken ⟨rfl, symbol, source, name, original⟩
  | mint valid registered owned mintable parsed fits supplyFits =>
    have signed := signed_of_validateSupplyChange valid
    exact (complete.setUnfrozen signed _ _).setSupply (complete.token _ _ registered) _
  | burn valid registered owned parsed enough supplyEnough =>
    have signed := signed_of_validateSupplyChange valid
    exact (complete.setUnfrozen signed _ _).setSupply (complete.token _ _ registered) _
  | freeze valid parsed enough fits =>
    exact complete.setBuckets (signed_of_validateMove valid) _ _ _
  | unfreeze valid parsed enough fits =>
    exact complete.setBuckets (signed_of_validateMove valid) _ _ _

theorem Posted.namesSupply {book after : Book} {request : Request} {receipt : Receipt}
    {next : UInt64} (posted : Posted params candidate nonce book request receipt after next)
    (names : book.NamesSupply) : after.NamesSupply := by
  cases posted with
  | issue valid parsed found fits => exact NamesSupply.withToken names (contains_single _ _)
  | mint valid registered owned mintable parsed fits supplyFits =>
    exact NamesSupply.setSupply names _ _ _
  | burn valid registered owned parsed enough supplyEnough =>
    exact NamesSupply.setSupply names _ _ _
  | freeze valid parsed enough fits => exact names
  | unfreeze valid parsed enough fits => exact names

/-! ### Refusals are not fatal -/

/-- Whether a result, if it is a fault, is one that is not fatal. -/
def Mild {α : Type} (result : Except Fault α) : Prop :=
  ∀ fault, result = .error fault → fault.isFatal = false

theorem mild_ok {α : Type} (value : α) : Mild (.ok value) :=
  FailsOnlyWith.ok value

theorem mild_error {α : Type} {fault : Fault} (mild : fault.isFatal = false) :
    Mild (.error fault : Except Fault α) :=
  FailsOnlyWith.error mild

theorem Mild.bind {α β : Type} {first : Except Fault α} {next : α → Except Fault β}
    (mild : Mild first) (mildNext : ∀ value, Mild (next value)) : Mild (first >>= next) :=
  FailsOnlyWith.bind mild mildNext

theorem mild_ite {α : Type} {condition : Prop} [Decidable condition] {yes no : Except Fault α}
    (mildYes : Mild yes) (mildNo : Mild no) : Mild (if condition then yes else no) :=
  FailsOnlyWith.ite mildYes mildNo

theorem mild_mapError {ε α : Type} {result : Except ε α} {relabel : ε → Fault}
    (mild : ∀ reason, (relabel reason).isFatal = false) : Mild (result.mapError relabel) :=
  FailsOnlyWith.mapError mild

theorem mild_parseOrFault (raw : String) : Mild (Amount.parseOrFault raw) :=
  mild_mapError fun _ => rfl

theorem mild_validate (request : Request) : Mild request.validate := by
  have supplyChange (terms : Order) (flaw : RequestFlaw) : Mild (terms.validateSupplyChange flaw) :=
    mild_ite (mild_error rfl) (mild_ite (mild_error rfl) (mild_ite (mild_error rfl) (mild_ok ())))
  have move (terms : Order) : Mild terms.validateMove :=
    (mild_mapError fun _ => rfl).bind fun _ =>
      mild_ite (mild_error rfl) (mild_ite (mild_error rfl) (mild_ok ()))
  cases request with
  | issue terms =>
    exact mild_ite (mild_error rfl) (mild_ite (mild_error rfl)
      ((mild_parseOrFault _).bind fun _ => mild_ok ()))
  | order kind terms =>
    cases kind with
    | mint => exact supplyChange terms _
    | burn => exact supplyChange terms _
    | freeze => exact move terms
    | unfreeze => exact move terms

theorem mild_issue (book : Book) (terms : Issuance) :
    Mild (book.issue params candidate nonce terms) := by
  refine (mild_parseOrFault _).bind fun amount => ?_
  split
  · exact mild_error rfl
  · exact mild_ite (mild_error rfl) (mild_ok _)

theorem mild_order (book : Book) (kind : OrderKind) (terms : Order) :
    Mild (book.order params kind terms) := by
  cases kind with
  | mint =>
    rw [order, mint]
    split
    · exact mild_error rfl
    · exact mild_ite (mild_error rfl) (mild_ite (mild_error rfl)
        ((mild_parseOrFault _).bind fun _ => mild_ite (mild_error rfl) (mild_ok _)))
  | burn =>
    rw [order, burn]
    split
    · exact mild_error rfl
    · exact mild_ite (mild_error rfl) ((mild_parseOrFault _).bind fun _ =>
        mild_ite (mild_error rfl) (mild_ite (mild_error rfl) (mild_ok _)))
  | freeze =>
    exact (mild_parseOrFault _).bind fun _ =>
      mild_ite (mild_error rfl) (mild_ite (mild_error rfl) (mild_ok _))
  | unfreeze =>
    exact (mild_parseOrFault _).bind fun _ =>
      mild_ite (mild_error rfl) (mild_ite (mild_error rfl) (mild_ok _))

/-- A posting is never refused with a fatal fault. -/
theorem mild_post (book : Book) (request : Request) :
    Mild (book.post params candidate nonce request) := by
  refine (mild_validate request).bind fun _ => ?_
  cases request with
  | issue terms => exact mild_issue book terms
  | order kind terms => exact (mild_order book kind terms).bind fun _ => mild_ok _

end TokenLedger.Book
