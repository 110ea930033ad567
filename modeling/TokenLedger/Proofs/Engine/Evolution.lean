/-
This file follows one token through every run of an engine. Once a symbol is registered it stays
registered, and the record under it keeps its owner, its names and its flag. Only a delivery that
gives a receipt for minting or burning the symbol changes the supply, by exactly the amount, and only
for the owner. The step is stated for one delivery, and the runs follow by induction on the
envelopes.
-/

import Mathlib
import TokenLedger.Proofs.Engine.Authority
import TokenLedger.Proofs.Engine.Conservation
import TokenLedger.Proofs.Engine.Replay

namespace TokenLedger

/-- What a delivery may make of a registered token: it is left alone unless its owner has minted or
burned. -/
def Token.EvolvesTo (params : Params) (symbol : String) (token later : Token) (request : Request)
    (outcome : Outcome) : Prop :=
  (later = token ∧
    (request.supplySymbol? = some symbol → ∃ fault, outcome = .error fault)) ∨
  ∃ receipt, outcome = .ok receipt ∧ token.Resupplied params later request receipt

/-- The supply of a token that cannot be minted never rises, where the parameters say so. -/
theorem Token.EvolvesTo.supply_le {params : Params} {symbol : String} {token later : Token}
    {request : Request} {outcome : Outcome}
    (evolves : token.EvolvesTo params symbol later request outcome)
    (enforced : params.enforceMintable = true) (fixed : token.mintable = false) :
    later.supply.toNat ≤ token.supply.toNat := by
  rcases evolves with ⟨rfl, _⟩ | ⟨receipt, _, resupplied⟩
  · exact Nat.le_refl _
  · cases resupplied with
    | mint symbol signer allowed parsed more =>
      have mintable := allowed enforced
      rw [fixed] at mintable
      cases mintable
    | burn symbol signer parsed less =>
      rw [less]
      exact Nat.le_add_right _ _

namespace Engine

variable {engine : Engine} {book : Book} {symbol : String} {token : Token}

/-- The record that an engine has under a symbol. -/
def tokenAt (engine : Engine) (symbol : String) : Except Fault Token :=
  Registry.get engine.setup.format (.ofStore engine.store.tokens) symbol

/-! ### The registry of a sound engine -/

theorem Sound.tokenAt_eq_ok_iff (sound : engine.Sound book) :
    engine.tokenAt symbol = .ok token ↔ book.tokens.get? symbol = some token := by
  rw [tokenAt, Registry.get_of_view ((LayeredStore.view_ofStore _).trans sound.tokens_eq)]
  cases book.tokens.get? symbol with
  | none => exact ⟨nofun, nofun⟩
  | some found => exact ⟨fun same => congrArg some (Except.ok.inj same),
      fun same => congrArg Except.ok (Option.some.inj same)⟩

theorem Sound.exists_of_isRegistered (sound : engine.Sound book)
    (registered : Registry.isRegistered (.ofStore engine.store.tokens) symbol = true) :
    ∃ token, book.tokens.get? symbol = some token := by
  rw [Registry.isRegistered_of_view ((LayeredStore.view_ofStore _).trans sound.tokens_eq),
    SortedMap.contains_eq_isSome] at registered
  exact Option.isSome_iff_exists.mp registered

/-! ### One delivery -/

/-- No delivery changes the rules of an engine. -/
theorem sameRules_deliver (engine : Engine) (envelope : Envelope) :
    engine.SameRules (engine.deliver envelope).2 := by
  cases fatal : Outcome.isFatal (engine.deliver envelope).1 with
  | true =>
    rw [deliver_of_fatal fatal]
    exact .refl engine
  | false => exact (deliver_of_not_fatal fatal).2.2

/-- A delivery is one for a caller who agrees to every outcome. -/
theorem deliver_snd (engine : Engine) (envelope : Envelope) :
    (engine.deliver envelope).2 =
      (engine.deliverThen envelope fun _ => .ok () : Id (Except Empty Outcome × Engine)).2 := by
  unfold Engine.deliver
  split
  next delivered => rw [delivered]
  next never after refused => exact nomatch never

theorem Reachable.deliver (reachable : engine.Reachable) (envelope : Envelope) :
    (engine.deliver envelope).2.Reachable := by
  rw [deliver_snd]
  exact reachable.deliverThen envelope _

/-- One delivery keeps a registered token, but for its supply. -/
theorem Sound.deliver_token (sound : engine.Sound book)
    (registered : book.tokens.get? symbol = some token) (envelope : Envelope) :
    ∃ after supply, (engine.deliver envelope).2.Sound after ∧
      after.tokens.get? symbol = some { token with totalSupply := supply } ∧
      token.EvolvesTo engine.setup.params symbol { token with totalSupply := supply }
        envelope.request (engine.deliver envelope).1 := by
  rcases sound.deliver_cases envelope with
    ⟨fault, place, refused⟩ | ⟨receipt, after, next, posted, delivered⟩
  · rw [refused]
    exact ⟨book, token.totalSupply, sound.withPlace place, registered,
      Or.inl ⟨rfl, fun _ => ⟨fault, rfl⟩⟩⟩
  · rw [delivered]
    rcases posted.token_cases sound.complete registered with
      ⟨same, other⟩ | ⟨supply, changed, resupplied⟩
    · exact ⟨after, token.totalSupply, sound.withPosted posted _, same,
        Or.inl ⟨rfl, fun named => absurd named other⟩⟩
    · exact ⟨after, supply, sound.withPosted posted _, changed,
        Or.inr ⟨receipt, rfl, resupplied⟩⟩

/-! ### Runs -/

theorem run_append (engine : Engine) (envelopes more : List Envelope) :
    engine.run (envelopes ++ more) = (engine.run envelopes).run more :=
  List.foldl_append

theorem sameRules_run (engine : Engine) (envelopes : List Envelope) :
    engine.SameRules (engine.run envelopes) := by
  induction envelopes generalizing engine with
  | nil => exact .refl engine
  | cons envelope rest inductionHypothesis =>
    exact (sameRules_deliver engine envelope).trans (inductionHypothesis _)

theorem Reachable.run (reachable : engine.Reachable) (envelopes : List Envelope) :
    (engine.run envelopes).Reachable := by
  induction envelopes generalizing engine with
  | nil => exact reachable
  | cons envelope rest inductionHypothesis => exact inductionHypothesis (reachable.deliver envelope)

/-- By induction on the envelopes, a run keeps a registered token, but for its supply, which does not
rise if the token cannot be minted. -/
theorem Sound.run_token (sound : engine.Sound book)
    (registered : book.tokens.get? symbol = some token) (envelopes : List Envelope) :
    ∃ after supply, (engine.run envelopes).Sound after ∧
      after.tokens.get? symbol = some { token with totalSupply := supply } ∧
      (engine.setup.params.enforceMintable = true → token.mintable = false →
        (Token.supply { token with totalSupply := supply }).toNat ≤ token.supply.toNat) := by
  induction envelopes generalizing engine book token with
  | nil => exact ⟨book, token.totalSupply, sound, registered, fun _ _ => Nat.le_refl _⟩
  | cons envelope rest inductionHypothesis =>
    obtain ⟨between, supply, delivered, kept, evolves⟩ := sound.deliver_token registered envelope
    obtain ⟨after, last, later, still, bound⟩ := inductionHypothesis delivered kept
    rw [(sameRules_deliver engine envelope).setup] at bound
    refine ⟨after, last, later, still, fun enforced fixed => ?_⟩
    exact (bound enforced fixed).trans (evolves.supply_le enforced fixed)

/-- A symbol that is registered at some point of a run stays registered, and its token keeps all but
the supply. Each further delivery leaves the token alone unless it gives a receipt for minting or
burning the symbol, signed by the owner, and then the supply changes by exactly the amount. The
supply of a token that cannot be minted never rises, where this is enforced. -/
theorem registry_evolves (reachable : engine.Reachable) (earlier : List Envelope)
    (registered : Registry.isRegistered (.ofStore (engine.run earlier).store.tokens) symbol = true) :
    ∃ token, (engine.run earlier).tokenAt symbol = .ok token ∧ token.symbol = symbol ∧
      ∀ envelopes : List Envelope, ∃ supply,
        (engine.run (earlier ++ envelopes)).tokenAt symbol =
          .ok { token with totalSupply := supply } ∧
        (∀ envelope : Envelope, ∃ later,
          ((engine.run (earlier ++ envelopes)).deliver envelope).2.tokenAt symbol = .ok later ∧
            Token.EvolvesTo engine.setup.params symbol { token with totalSupply := supply } later
              envelope.request ((engine.run (earlier ++ envelopes)).deliver envelope).1) ∧
        (engine.setup.params.enforceMintable = true → token.mintable = false →
          ∀ more : List Envelope, ∃ later,
            (engine.run (earlier ++ envelopes ++ more)).tokenAt symbol = .ok later ∧
              later.supply.toNat ≤ (Token.supply { token with totalSupply := supply }).toNat) := by
  obtain ⟨book, sound⟩ := (reachable.run earlier).sound
  obtain ⟨token, found⟩ := sound.exists_of_isRegistered registered
  refine ⟨token, sound.tokenAt_eq_ok_iff.mpr found, (sound.complete.token _ _ found).symbol_eq,
    fun envelopes => ?_⟩
  obtain ⟨between, supply, later, kept, _⟩ := sound.run_token found envelopes
  rw [← run_append] at later
  have setup := (sameRules_run engine (earlier ++ envelopes)).setup
  refine ⟨supply, later.tokenAt_eq_ok_iff.mpr kept, fun envelope => ?_,
    fun enforced fixed more => ?_⟩
  · obtain ⟨after, last, delivered, still, evolves⟩ := later.deliver_token kept envelope
    rw [setup] at evolves
    exact ⟨_, delivered.tokenAt_eq_ok_iff.mpr still, evolves⟩
  · obtain ⟨after, last, run, still, bound⟩ := later.run_token kept more
    rw [setup] at bound
    rw [run_append]
    exact ⟨_, run.tokenAt_eq_ok_iff.mpr still, bound enforced fixed⟩

theorem registry_evolves_oneToken :
    oneToken.Reachable ∧
      Registry.isRegistered (.ofStore (oneToken.run []).store.tokens) "GLD-1A2" = true ∧
      ∃ token, (oneToken.run []).tokenAt "GLD-1A2" = .ok token ∧
        ∃ supply, (oneToken.run [.freezeOneToken]).tokenAt "GLD-1A2" =
          .ok { token with totalSupply := supply } := by
  have registered :
      Registry.isRegistered (.ofStore (oneToken.run []).store.tokens) "GLD-1A2" = true := by
    decide +kernel
  obtain ⟨token, found, _, evolves⟩ := registry_evolves oneToken_reachable [] registered
  obtain ⟨supply, later, _⟩ := evolves [.freezeOneToken]
  exact ⟨oneToken_reachable, registered, token, found, supply, later⟩

end Engine

end TokenLedger
