/-
This file carries out the steps of a request on given work. Each step is described by one equation,
and from the equations follows what no request can do, whatever the stores hold: it writes only into
the layer that was opened for it, and it changes the generator only in how many proposals have been
made. Undoing the work therefore gives back the engine that it was started from.
-/

import Mathlib
import TokenLedger.Engine.Basic
import TokenLedger.Proofs.Ledger.Book

namespace TokenLedger

namespace Step

variable {α β : Type}

/-- What a step comes to on given work, and the work after it. -/
def exec (step : Step α) (work : Work) : Except Fault α × Work :=
  step.run.run work

@[simp] theorem exec_pure (value : α) (work : Work) :
    exec (pure value) work = (.ok value, work) := rfl

@[simp] theorem exec_throw (fault : Fault) (work : Work) :
    exec (throw fault : Step α) work = (.error fault, work) := rfl

@[simp] theorem exec_get (work : Work) : exec get work = (.ok work, work) := rfl

@[simp] theorem exec_lift (result : Except Fault α) (work : Work) :
    exec (liftM result) work = (result, work) := rfl

/-- A step that fails ends the request; what it has written stays. -/
theorem exec_bind (step : Step α) (next : α → Step β) (work : Work) :
    exec (step >>= next) work =
      match exec step work with
      | (.error fault, work) => (.error fault, work)
      | (.ok value, work) => exec (next value) work := by
  show StateT.bind step (ExceptT.bindCont next) work = _
  unfold exec ExceptT.run StateT.run StateT.bind
  cases step work with
  | mk result after => cases result <;> rfl

theorem exec_bind_of_ok {step : Step α} {value : α} {work after : Work}
    (run : exec step work = (.ok value, after)) (next : α → Step β) :
    exec (step >>= next) work = exec (next value) after := by
  rw [exec_bind, run]

theorem exec_bind_of_error {step : Step α} {fault : Fault} {work : Work}
    (run : (exec step work).1 = .error fault) (next : α → Step β) :
    (exec (step >>= next) work).1 = .error fault := by
  rw [exec_bind]
  cases ran : exec step work with
  | mk result after =>
    rw [ran] at run
    cases run
    rfl

/-- A sequence of steps that succeeds has a first step that does. -/
theorem exec_bind_eq_ok {step : Step α} {next : α → Step β} {result : β} {work after : Work}
    (run : exec (step >>= next) work = (.ok result, after)) :
    ∃ value between, exec step work = (.ok value, between) ∧
      exec (next value) between = (.ok result, after) := by
  rw [exec_bind] at run
  cases first : exec step work with
  | mk outcome between =>
    rw [first] at run
    cases outcome with
    | error fault => cases run
    | ok value => exact ⟨value, between, rfl, run⟩

/-! ### The steps one by one -/

theorem exec_onAccounts (change : Holdings.Change α) (work : Work) :
    exec (onAccounts change) work =
      ((change.perform work.accounts).1,
        { work with accounts := (change.perform work.accounts).2 }) := rfl

/-- Of a change that fails nothing is left in the work. -/
theorem exec_revise (format : RecordFormat) (address : Address)
    (revision : Account → Except Fault (α × Account)) (work : Work) :
    exec (onAccounts (Holdings.revise format address revision)) work =
      match Holdings.get format work.accounts address >>= revision with
      | .error fault => (.error fault, work)
      | .ok (answer, account) =>
        (.ok answer, { work with accounts := Holdings.put format work.accounts account }) := by
  rw [exec_onAccounts, Holdings.perform_revise]
  cases Holdings.get format work.accounts address >>= revision <;> rfl

theorem exec_register (setup : Setup) (symbol : String) (token : Token) (work : Work) :
    exec (register setup symbol token) work =
      match Registry.set setup.format work.tokens symbol token with
      | .error fault => (.error fault, work)
      | .ok tokens => (.ok (), { work with tokens }) := by
  simp only [register, exec_bind, exec_get]
  cases Registry.set setup.format work.tokens symbol token <;> rfl

theorem exec_recordSupply (setup : Setup) (symbol : String) (supply : Amount) (work : Work) :
    exec (recordSupply setup symbol supply) work =
      match Registry.setTotalSupply setup.format work.tokens symbol
        (Coins.single symbol supply) with
      | .error fault => (.error fault, work)
      | .ok tokens => (.ok (), { work with tokens }) := by
  simp only [recordSupply, exec_bind, exec_get]
  cases Registry.setTotalSupply setup.format work.tokens symbol (Coins.single symbol supply) <;> rfl

/-- The generator has moved even if no symbol has been found. -/
theorem exec_findSymbol (setup : Setup) (requested : String) (work : Work) :
    exec (findSymbol setup requested) work =
      match work.generator.firstFree? (Registry.isRegistered work.tokens) requested
        (max setup.params.maxSymbolAttempts 1).toNat with
      | (some symbol, generator) => (.ok symbol, { work with generator })
      | (none, generator) =>
        (.error (.noFreeSymbol requested (max setup.params.maxSymbolAttempts 1)),
          { work with generator }) := by
  simp only [findSymbol, exec_bind, exec_get]
  rcases work.generator.firstFree? (Registry.isRegistered work.tokens) requested
    (max setup.params.maxSymbolAttempts 1).toNat with ⟨found, generator⟩
  cases found <;> rfl

theorem exec_ownedToken (setup : Setup) (symbol : String) (signer : Address) (work : Work) :
    exec (ownedToken setup symbol signer) work =
      match Registry.get setup.format work.tokens symbol with
      | .error fault => (.error fault, work)
      | .ok token =>
        (if signer ≠ token.owner then .error (.notOwner token.owner signer) else .ok token,
          work) := by
  simp only [ownedToken, exec_bind, exec_get]
  cases Registry.get setup.format work.tokens symbol with
  | error fault => rfl
  | ok token =>
    by_cases other : signer ≠ token.owner
    · simp only [if_pos other, exec_lift, exec_bind, exec_throw]
    · simp only [if_neg other, exec_lift, exec_pure]

end Step

/-! ### What no request can do -/

/-- Work over an engine's stores: one layer over each, and the generator of the engine, which may
have made further proposals. -/
structure Work.Within (engine : Engine) (work : Work) : Prop where
  tokens : LayeredStore.OneLayer engine.store.tokens work.tokens
  accounts : LayeredStore.OneLayer engine.store.accounts work.accounts
  candidate : work.generator.candidate = engine.generator.candidate

theorem Engine.work_within (engine : Engine) : engine.work.Within engine :=
  ⟨LayeredStore.oneLayer_begin _, LayeredStore.oneLayer_begin _, rfl⟩

/-- Undoing the work gives back the engine. -/
theorem Work.Within.undo {engine : Engine} {work : Work} (within : work.Within engine) :
    engine.undo work = engine := by
  have store : (Scope.mk work.tokens work.accounts).discard = engine.store := by
    rw [Scope.discard, within.tokens.discard_base, within.accounts.discard_base]
  have generator : work.generator.resume engine.generator.nonce = engine.generator := by
    rw [SymbolGenerator.resume, within.candidate]
  rw [Engine.undo, store, generator]

namespace Registry

variable {format : RecordFormat} {store after : LayeredStore} {symbol : String}

theorem set_of_set {token : Token} (run : set format store symbol token = .ok after) :
    after = store.set (utf8 symbol) (format.encodeToken token) := by
  rw [set] at run
  split at run
  next => cases run
  next =>
    cases run
    rfl

theorem set_of_setTotalSupply {totalSupply : Coins}
    (run : setTotalSupply format store symbol totalSupply = .ok after) :
    ∃ bytes, after = store.set (utf8 symbol) bytes := by
  obtain ⟨token, _, run⟩ := bind_eq_ok run
  exact ⟨_, set_of_set run⟩

end Registry

namespace SymbolGenerator

theorem candidate_firstFree? (taken : String → Bool) (requested : String) (attempts : Nat)
    (generator : SymbolGenerator) :
    (generator.firstFree? taken requested attempts).2.candidate = generator.candidate := by
  induction attempts generalizing generator with
  | zero => rfl
  | succ attempts inductionHypothesis =>
    rw [firstFree?, generate]
    dsimp only
    split
    · rfl
    · exact inductionHypothesis _

end SymbolGenerator

namespace Step

/-- A step that stays over the engine's stores wherever it starts over them. -/
def Stays {α : Type} (engine : Engine) (step : Step α) : Prop :=
  ∀ work : Work, work.Within engine → (exec step work).2.Within engine

variable {α β : Type} {engine : Engine}

theorem stays_pure (value : α) : Stays engine (pure value) := fun _ within => within

theorem stays_throw (fault : Fault) : Stays engine (throw fault : Step α) := fun _ within => within

theorem stays_lift (result : Except Fault α) : Stays engine (liftM result) := fun _ within => within

theorem stays_get : Stays engine get := fun _ within => within

theorem Stays.bind {step : Step α} {next : α → Step β} (stays : Stays engine step)
    (staysNext : ∀ value, Stays engine (next value)) : Stays engine (step >>= next) := by
  intro work within
  have after := stays work within
  rw [exec_bind]
  cases ran : exec step work with
  | mk result between =>
    rw [ran] at after
    cases result with
    | error fault => exact after
    | ok value => exact staysNext value between after

/-- Of the accounts one at most is written, into the layer. -/
theorem stays_revise (format : RecordFormat) (address : Address)
    (revision : Account → Except Fault (α × Account)) :
    Stays engine (onAccounts (Holdings.revise format address revision)) := by
  intro work within
  rw [exec_revise]
  split
  next => exact within
  next =>
    exact ⟨within.tokens, Holdings.oneLayer_put within.accounts format _, within.candidate⟩

theorem stays_register (setup : Setup) (symbol : String) (token : Token) :
    Stays engine (register setup symbol token) := by
  intro work within
  rw [exec_register]
  split
  next => exact within
  next registered =>
    rw [Registry.set_of_set registered]
    exact ⟨within.tokens.set _ _, within.accounts, within.candidate⟩

theorem stays_recordSupply (setup : Setup) (symbol : String) (supply : Amount) :
    Stays engine (recordSupply setup symbol supply) := by
  intro work within
  rw [exec_recordSupply]
  split
  next => exact within
  next recorded =>
    obtain ⟨bytes, rfl⟩ := Registry.set_of_setTotalSupply recorded
    exact ⟨within.tokens.set _ _, within.accounts, within.candidate⟩

theorem stays_findSymbol (setup : Setup) (requested : String) :
    Stays engine (findSymbol setup requested) := by
  intro work within
  have candidate := SymbolGenerator.candidate_firstFree? (Registry.isRegistered work.tokens)
    requested (max setup.params.maxSymbolAttempts 1).toNat work.generator
  rw [exec_findSymbol]
  split
  next found =>
    rw [found] at candidate
    exact ⟨within.tokens, within.accounts, candidate.trans within.candidate⟩
  next found =>
    rw [found] at candidate
    exact ⟨within.tokens, within.accounts, candidate.trans within.candidate⟩

theorem stays_ownedToken (setup : Setup) (symbol : String) (signer : Address) :
    Stays engine (ownedToken setup symbol signer) := by
  intro work within
  rw [exec_ownedToken]
  split
  next => exact within
  next => exact within

/-! ### Requests stay -/

theorem stays_issue (setup : Setup) (terms : Issuance) : Stays engine (issue setup terms) := by
  refine (stays_lift _).bind fun supply => ?_
  refine (stays_findSymbol setup _).bind fun symbol => ?_
  refine (stays_revise _ _ _).bind fun _ => ?_
  exact (stays_register setup _ _).bind fun _ => stays_pure _

theorem stays_mint (setup : Setup) (terms : Order) : Stays engine (mint setup terms) := by
  refine (stays_ownedToken setup _ _).bind fun token => ?_
  have minted (amount : Amount) : Stays engine (do
      let _ ← credit setup token.owner terms.symbol amount
      let supply ← Amount.addOrFault token.supply amount
      recordSupply setup terms.symbol supply
      return Receipt.ofSupply OrderKind.mint.action terms.symbol token.owner amount supply) := by
    refine (stays_revise _ _ _).bind fun _ => ?_
    refine (stays_lift _).bind fun supply => ?_
    exact (stays_recordSupply setup _ _).bind fun _ => stays_pure _
  split
  · refine (stays_throw _).bind fun _ => ?_
    exact (stays_lift _).bind minted
  · exact (stays_lift _).bind minted

theorem stays_burn (setup : Setup) (terms : Order) : Stays engine (burn setup terms) := by
  refine (stays_ownedToken setup _ _).bind fun token => ?_
  refine (stays_lift _).bind fun amount => ?_
  refine (stays_revise _ _ _).bind fun _ => ?_
  split
  · exact stays_throw _
  · exact (stays_recordSupply setup _ _).bind fun _ => stays_pure _

theorem stays_freeze (setup : Setup) (terms : Order) : Stays engine (freeze setup terms) := by
  refine (stays_lift _).bind fun amount => ?_
  exact (stays_revise _ _ _).bind fun _ => stays_pure _

theorem stays_unfreeze (setup : Setup) (terms : Order) : Stays engine (unfreeze setup terms) := by
  refine (stays_lift _).bind fun amount => ?_
  exact (stays_revise _ _ _).bind fun _ => stays_pure _

theorem stays_apply (setup : Setup) (request : Request) : Stays engine (apply setup request) := by
  cases request with
  | issue terms => exact stays_issue setup terms
  | order kind terms =>
    cases kind with
    | mint => exact stays_mint setup terms
    | burn => exact stays_burn setup terms
    | freeze => exact stays_freeze setup terms
    | unfreeze => exact stays_unfreeze setup terms

end Step

/-- A request and the check of what it leaves stay over the engine's stores. -/
theorem Engine.stays_attempt (engine : Engine) (setup : Setup) (request : Request) :
    Step.Stays engine (attempt setup request) := by
  refine (Step.stays_lift _).bind fun _ => ?_
  refine (Step.stays_apply setup request).bind fun receipt => ?_
  refine Step.stays_get.bind fun work => ?_
  exact (Step.stays_lift _).bind fun _ => Step.stays_pure _

end TokenLedger
