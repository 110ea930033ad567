/-
This file proves in which denominations the supplies of an engine's tokens are. Issuing, minting and
burning record a supply in the token's own denomination alone. A genesis state can bring in other
ones, since its checks only ask for an entry in the token's own; where no such state is tried, every
recorded supply has exactly one entry, and no delivery changes any other. Otherwise the next minting
or burning drops the entries in other denominations.
-/

import Mathlib
import TokenLedger.Proofs.Engine.Evolution

namespace TokenLedger

/-! ### Supplies in one denomination -/

/-- The supply has exactly one entry, in the token's own denomination. -/
def Token.OwnSupply (token : Token) : Prop :=
  token.totalSupply.keys = [token.symbol]

instance (token : Token) : Decidable token.OwnSupply :=
  inferInstanceAs (Decidable (_ = _))

theorem Token.OwnSupply.get?_other {token : Token} (own : token.OwnSupply) {other : String}
    (distinct : other ≠ token.symbol) : token.totalSupply.get? other = none := by
  by_contra bound
  obtain ⟨amount, found⟩ := Option.ne_none_iff_exists'.mp bound
  have listed := SortedMap.mem_keys_iff.mpr ⟨amount, found⟩
  rw [own, List.mem_singleton] at listed
  exact distinct listed

/-- If the records pass their checks, every supply is in its token's own denomination alone. -/
def GenesisState.OwnSupplies (state : GenesisState) : Prop :=
  state.validate = .ok () → ∀ token ∈ state.tokens, token.OwnSupply

namespace Book

variable {book after : Book} {params : Params} {candidate : UInt64 → String → String}
  {nonce next : UInt64} {request : Request} {receipt : Receipt}

/-- Every recorded supply is in its token's own denomination alone. -/
def OwnSupplies (book : Book) : Prop :=
  ∀ symbol token, book.tokens.get? symbol = some token → token.totalSupply.keys = [symbol]

theorem ownSupplies_empty : empty.OwnSupplies := fun _ _ found => by cases found

theorem OwnSupplies.withToken (own : book.OwnSupplies) {symbol : String} {token : Token}
    (fresh : token.totalSupply.keys = [symbol]) : (book.withToken symbol token).OwnSupplies := by
  intro other found recorded
  rw [Book.withToken, SortedMap.get?_insert] at recorded
  split at recorded
  next same =>
    rw [same, ← Option.some.inj recorded]
    exact fresh
  next => exact own other found recorded

theorem OwnSupplies.foldl_withToken (own : book.OwnSupplies) {tokens : List Token}
    (fresh : ∀ token ∈ tokens, token.OwnSupply) :
    (tokens.foldl (fun book token => book.withToken token.symbol token) book).OwnSupplies := by
  induction tokens generalizing book with
  | nil => exact own
  | cons first rest inductionHypothesis =>
    obtain ⟨ofFirst, ofRest⟩ := List.forall_mem_cons.mp fresh
    exact inductionHypothesis (own.withToken ofFirst) ofRest

theorem OwnSupplies.load (own : book.OwnSupplies) {state : GenesisState}
    (fresh : ∀ token ∈ state.tokens, token.OwnSupply) : (book.load state).OwnSupplies := by
  intro symbol token recorded
  rw [Book.load, tokens_foldl_withAccount] at recorded
  exact own.foldl_withToken fresh symbol token recorded

/-- Trying a state keeps to the tokens' own denominations, also if the state is refused. -/
theorem OwnSupplies.ofLoading (own : book.OwnSupplies) {state : GenesisState}
    (fresh : state.OwnSupplies)
    (cause : after = book ∨ state.validate = .ok () ∧ after = book.load state) :
    after.OwnSupplies := by
  rcases cause with rfl | ⟨valid, rfl⟩
  · exact own
  · exact own.load (fresh valid)

/-- What is issued, minted or burned is recorded in the token's own denomination alone. -/
theorem Posted.ownSupplies
    (posted : Posted params candidate nonce book request receipt after next)
    (own : book.OwnSupplies) : after.OwnSupplies := by
  cases posted with
  | issue valid parsed found fits => exact OwnSupplies.withToken own rfl
  | mint valid registered owned mintable parsed fits supplyFits =>
    exact OwnSupplies.withToken own rfl
  | burn valid registered owned parsed enough supplyEnough => exact OwnSupplies.withToken own rfl
  | freeze valid parsed enough fits => exact own
  | unfreeze valid parsed enough fits => exact own

/-- After minting or burning, only the token's own denomination is left, whatever was there. -/
theorem Posted.keys_of_supplySymbol?
    (posted : Posted params candidate nonce book request receipt after next) {symbol : String}
    (named : request.supplySymbol? = some symbol) :
    ∃ token, after.tokens.get? symbol = some token ∧ token.totalSupply.keys = [symbol] := by
  cases posted with
  | issue valid parsed found fits => cases named
  | mint valid registered owned mintable parsed fits supplyFits =>
    obtain rfl := Option.some.inj named
    exact ⟨_, SortedMap.get?_insert_self .., rfl⟩
  | burn valid registered owned parsed enough supplyEnough =>
    obtain rfl := Option.some.inj named
    exact ⟨_, SortedMap.get?_insert_self .., rfl⟩
  | freeze valid parsed enough fits => cases named
  | unfreeze valid parsed enough fits => cases named

end Book

/-- A genesis state with one token, whose supply has an entry in another denomination. -/
def GenesisState.twoDenominations : GenesisState :=
  ⟨[⟨"alice", "Gold", "GLD-1A2", "GLD", (Coins.single "GLD-1A2" 100).setAmount "OTHER" 5, true⟩],
    [⟨"alice", Coins.single "GLD-1A2" 100, .empty⟩]⟩

/-- Mint a little of the one token. -/
def Envelope.mintOne : Envelope :=
  ⟨1, TokenLedger.schemaVersion, .order .mint ⟨"1", "GLD-1A2", "alice"⟩⟩

namespace Engine

variable {engine : Engine} {book : Book} {kind : GenesisState → Prop} {symbol : String}
  {token : Token}

/-! ### Engines on which states of one kind are tried -/

/-- The engines that come about from a new one while every state that is tried on them is of a
kind. -/
inductive ReachedWith (kind : GenesisState → Prop) : Engine → Prop
  | new (setup : Setup) (generator : SymbolGenerator) : ReachedWith kind (.new setup generator)
  | initGenesis {engine : Engine} (before : ReachedWith kind engine) {genesis : GenesisState}
      (ofKind : kind genesis) : ReachedWith kind (engine.initGenesis genesis).2
  | restore {engine : Engine} (before : ReachedWith kind engine) {genesis : GenesisState}
      (ofKind : kind genesis) (sequence nonce : UInt64) :
      ReachedWith kind (engine.restore genesis sequence nonce).2
  | deliverThen {engine : Engine} {ε : Type} (before : ReachedWith kind engine)
      (envelope : Envelope) (persist : Outcome → Id (Except ε Unit)) :
      ReachedWith kind (engine.deliverThen envelope persist).2

theorem ReachedWith.reachable (reached : engine.ReachedWith kind) : engine.Reachable := by
  induction reached with
  | new setup generator => exact .new setup generator
  | initGenesis before ofKind inductionHypothesis => exact inductionHypothesis.initGenesis _
  | restore before ofKind sequence nonce inductionHypothesis =>
    exact inductionHypothesis.restore _ sequence nonce
  | deliverThen before envelope persist inductionHypothesis =>
    exact inductionHypothesis.deliverThen envelope persist

theorem ReachedWith.deliver (reached : engine.ReachedWith kind) (envelope : Envelope) :
    (engine.deliver envelope).2.ReachedWith kind := by
  rw [deliver_snd]
  exact reached.deliverThen envelope _

/-! ### One delivery -/

/-- Whatever was loaded, a receipt for minting or burning leaves a supply in the token's own
denomination alone: entries in other ones are dropped. -/
theorem Reachable.deliver_ownSupply (reachable : engine.Reachable) {envelope : Envelope}
    {receipt : Receipt} (named : envelope.request.supplySymbol? = some symbol)
    (received : (engine.deliver envelope).1 = .ok receipt) :
    ∃ later, (engine.deliver envelope).2.tokenAt symbol = .ok later ∧
      later.totalSupply.keys = [symbol] := by
  obtain ⟨book, sound⟩ := reachable.sound
  rcases sound.deliver_cases envelope with
    ⟨fault, place, refused⟩ | ⟨receipt, after, next, posted, delivered⟩
  · rw [refused] at received
    cases received
  · rw [delivered]
    obtain ⟨later, recorded, own⟩ := posted.keys_of_supplySymbol? named
    exact ⟨later, (sound.withPosted posted _).tokenAt_eq_ok_iff.mpr recorded, own⟩

/-! ### Every engine that is reached -/

/-- By induction on the steps, every supply stays in its token's own denomination. -/
theorem ReachedWith.ownSupplies (reached : engine.ReachedWith GenesisState.OwnSupplies) :
    ∃ book, engine.Sound book ∧ book.OwnSupplies := by
  induction reached with
  | new setup generator => exact ⟨.empty, sound_new setup generator, Book.ownSupplies_empty⟩
  | @initGenesis engine before genesis fresh inductionHypothesis =>
    obtain ⟨book, sound, own⟩ := inductionHypothesis
    obtain ⟨after, loaded, cause⟩ := sound.initGenesis genesis
    exact ⟨after, loaded, own.ofLoading fresh cause⟩
  | @restore engine before genesis fresh sequence nonce inductionHypothesis =>
    obtain ⟨book, sound, own⟩ := inductionHypothesis
    obtain ⟨after, loaded, cause⟩ := sound.restore genesis sequence nonce
    exact ⟨after, loaded, own.ofLoading fresh cause⟩
  | deliverThen before envelope persist inductionHypothesis =>
    obtain ⟨book, sound, own⟩ := inductionHypothesis
    obtain ⟨after, delivered, rfl | ⟨receipt, next, posted⟩⟩ := sound.deliverThen envelope persist
    · exact ⟨after, delivered, own⟩
    · exact ⟨after, delivered, posted.ownSupplies own⟩

theorem ReachedWith.ownSupply (reached : engine.ReachedWith GenesisState.OwnSupplies)
    (found : engine.tokenAt symbol = .ok token) : token.symbol = symbol ∧ token.OwnSupply := by
  obtain ⟨book, sound, own⟩ := reached.ownSupplies
  have recorded := sound.tokenAt_eq_ok_iff.mp found
  have named := (sound.complete.token symbol token recorded).symbol_eq
  refine ⟨named, ?_⟩
  rw [Token.OwnSupply, named]
  exact own symbol token recorded

/-- The tokens of a new engine that has accepted a state are those of the state. -/
theorem tokenAt_initGenesis_new {setup : Setup} {generator : SymbolGenerator}
    {genesis : GenesisState}
    (accepted : ((new setup generator).initGenesis genesis).1 = .ok ()) :
    ((new setup generator).initGenesis genesis).2.tokenAt symbol = .ok token ↔
      token ∈ genesis.tokens ∧ token.symbol = symbol := by
  obtain ⟨valid, sound⟩ := (sound_new setup generator).initGenesis_of_accepted accepted
  obtain ⟨⟨_, distinct⟩, _⟩ := genesis.validate_eq_ok_iff.mp valid
  exact sound.tokenAt_eq_ok_iff.trans (Book.get?_tokens_load_empty distinct)

/-- While every state that is tried has its supplies in the tokens' own denominations, so has the
registry, and no delivery changes an entry in another denomination. A new engine that accepts a
state has such a registry just when the state is one of these. -/
theorem supplies_stay_own (reached : engine.ReachedWith GenesisState.OwnSupplies) :
    (∀ symbol token, engine.tokenAt symbol = .ok token →
      token.symbol = symbol ∧ token.totalSupply.keys = [symbol]) ∧
    (∀ symbol token, engine.tokenAt symbol = .ok token → ∀ envelope,
      ∃ later, (engine.deliver envelope).2.tokenAt symbol = .ok later ∧
        ∀ other, other ≠ symbol → later.totalSupply.get? other = token.totalSupply.get? other) ∧
    ∀ setup generator genesis, ((new setup generator).initGenesis genesis).1 = .ok () →
      ((∀ symbol token,
          ((new setup generator).initGenesis genesis).2.tokenAt symbol = .ok token →
            token.totalSupply.keys = [symbol]) ↔
        ∀ token ∈ genesis.tokens, token.totalSupply.keys = [token.symbol]) := by
  refine ⟨fun symbol token found => ?_, fun symbol token found envelope => ?_,
    fun setup generator genesis accepted => ?_⟩
  · obtain ⟨rfl, own⟩ := reached.ownSupply found
    exact ⟨rfl, own⟩
  · obtain ⟨book, sound⟩ := reached.reachable.sound
    obtain ⟨after, supply, delivered, kept, _⟩ :=
      sound.deliver_token (sound.tokenAt_eq_ok_iff.mp found) envelope
    have foundLater := delivered.tokenAt_eq_ok_iff.mpr kept
    obtain ⟨rfl, own⟩ := reached.ownSupply found
    obtain ⟨_, ownLater⟩ := (reached.deliver envelope).ownSupply foundLater
    -- Before and after, the one entry is the token's own, so any other look-up finds nothing.
    refine ⟨_, foundLater, fun other distinct => ?_⟩
    rw [own.get?_other distinct, ownLater.get?_other distinct]
  · constructor
    · exact fun own token member =>
        own token.symbol token ((tokenAt_initGenesis_new accepted).mpr ⟨member, rfl⟩)
    · intro own symbol token found
      obtain ⟨member, rfl⟩ := (tokenAt_initGenesis_new accepted).mp found
      exact own token member

/-- The engine with one token is one of these, and mints without a change in other denominations. -/
theorem supplies_stay_own_oneToken :
    oneToken.ReachedWith GenesisState.OwnSupplies ∧
      ∃ token later, oneToken.tokenAt "GLD-1A2" = .ok token ∧
        token.totalSupply.keys = ["GLD-1A2"] ∧
        (oneToken.deliver .mintOne).2.tokenAt "GLD-1A2" = .ok later ∧
        ∀ other, other ≠ "GLD-1A2" →
          later.totalSupply.get? other = token.totalSupply.get? other := by
  have own : GenesisState.oneToken.OwnSupplies := fun _ => by decide
  have reached : oneToken.ReachedWith GenesisState.OwnSupplies := by
    rw [oneToken]
    exact .initGenesis (.new _ _) own
  have found : oneToken.tokenAt "GLD-1A2" = .ok
      ⟨"alice", "Gold", "GLD-1A2", "GLD", Coins.single "GLD-1A2" 100, true⟩ := by
    rw [oneToken, tokenAt_initGenesis_new (congrArg Prod.fst (initGenesis_oneToken _ _))]
    exact ⟨List.mem_cons_self, rfl⟩
  obtain ⟨supplies, deliveries, _⟩ := supplies_stay_own reached
  obtain ⟨later, foundLater, kept⟩ := deliveries "GLD-1A2" _ found .mintOne
  exact ⟨reached, _, later, found, (supplies "GLD-1A2" _ found).2, foundLater, kept⟩

/-- A supply with an entry in another denomination is accepted, and minting drops that entry. -/
theorem twoDenominations_accepted_and_dropped :
    ((new ⟨.proto, {}⟩ (.digest 0 3)).initGenesis .twoDenominations).1 = .ok () ∧
      ((new ⟨.proto, {}⟩ (.digest 0 3)).initGenesis .twoDenominations).2.exportState =
        .ok .twoDenominations ∧
      GenesisState.twoDenominations.tokens.map (fun token => token.totalSupply.keys) =
        [["GLD-1A2", "OTHER"]] ∧
      (((new ⟨.proto, {}⟩ (.digest 0 3)).initGenesis .twoDenominations).2.deliver .mintOne).1 =
        .ok (.ofSupply OrderKind.mint.action "GLD-1A2" "alice" 1 101) ∧
      (((new ⟨.proto, {}⟩ (.digest 0 3)).initGenesis .twoDenominations).2.deliver
        .mintOne).2.tokenAt "GLD-1A2" =
          .ok ⟨"alice", "Gold", "GLD-1A2", "GLD", Coins.single "GLD-1A2" 101, true⟩ :=
  ⟨by decide +kernel, by decide +kernel, by decide, by decide +kernel, by decide +kernel⟩

end Engine

end TokenLedger
