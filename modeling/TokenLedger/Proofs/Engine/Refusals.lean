/-
This file says what a refused genesis state leaves behind. Its records are checked before they are
stored, and a state that is refused then has changed nothing. They are checked once more when they
are in the stores, and this finds one more thing, a token whose supply does not name the token's own
denomination. A state that is refused only then stays in the stores, and the next one is loaded over
it. Where no state of this kind is tried, whatever has been refused before makes no difference to
what is accepted in the end.
-/

import Mathlib
import TokenLedger.Proofs.Engine.Reachable

namespace TokenLedger

namespace GenesisState

/-- The records pass their checks, and yet the supply of some token does not name the token's own
denomination. -/
def LacksSupply (state : GenesisState) : Prop :=
  state.validate = .ok () ∧
    ∃ token ∈ state.tokens, token.totalSupply.contains token.symbol = false

instance (state : GenesisState) : Decidable state.LacksSupply :=
  inferInstanceAs (Decidable (_ ∧ _))

theorem lacksSupply_iff {state : GenesisState} (valid : state.validate = .ok ()) :
    state.LacksSupply ↔ ¬ (Book.empty.load state).NamesSupply := by
  obtain ⟨⟨_, symbols⟩, _⟩ := state.validate_eq_ok_iff.mp valid
  rw [Book.namesSupply_load_empty_iff symbols, LacksSupply, and_iff_right valid]
  simp only [not_forall, Bool.not_eq_true, exists_prop]

/-- An account without an address. -/
def noAddress : GenesisState := ⟨[], [⟨"", .empty, .empty⟩]⟩

/-- A token whose supply is in another denomination, and an account that holds some of it. -/
def foreignSupply : GenesisState :=
  ⟨[⟨"alice", "Gold", "GLD-1A2", "GLD", Coins.single "OTHER" 5, true⟩],
    [⟨"bob", Coins.single "GLD-1A2" 7, .empty⟩]⟩

end GenesisState

/-- A way to give an engine its records: as its genesis state, or as the state of an engine that was
stopped. -/
inductive Loading
  | start (genesis : GenesisState)
  | resume (genesis : GenesisState) (sequence nonce : UInt64)

/-- The records that are loaded. -/
def Loading.genesis : Loading → GenesisState
  | .start genesis => genesis
  | .resume genesis _ _ => genesis

namespace Engine

variable {setup : Setup} {generator : SymbolGenerator} {engine : Engine} {loading : Loading}
  {fault : Fault} {refused : List GenesisState}

def load (engine : Engine) : Loading → Except Fault Unit × Engine
  | .start genesis => engine.initGenesis genesis
  | .resume genesis sequence nonce => engine.restore genesis sequence nonce

/-- The engines that come about from a new one while nothing is accepted that it is asked to load.
The states that it has refused are listed, the last one first. -/
inductive Unaccepted (setup : Setup) (generator : SymbolGenerator) :
    List GenesisState → Engine → Prop
  | new : Unaccepted setup generator [] (.new setup generator)
  | load {refused : List GenesisState} {engine : Engine} {fault : Fault}
      (before : Unaccepted setup generator refused engine) (loading : Loading)
      (failed : (engine.load loading).1 = .error fault) :
      Unaccepted setup generator (loading.genesis :: refused) (engine.load loading).2
  | deliverThen {refused : List GenesisState} {engine : Engine} {ε : Type}
      (before : Unaccepted setup generator refused engine) (envelope : Envelope)
      (persist : Outcome → Id (Except ε Unit)) :
      Unaccepted setup generator refused (engine.deliverThen envelope persist).2

/-! ### One refusal -/

/-- A refused loading comes to the same either way. -/
theorem load_of_refused (failed : (engine.load loading).1 = .error fault) :
    engine.load loading = engine.initGenesis loading.genesis := by
  cases loading with
  | start genesis => rfl
  | resume genesis sequence nonce =>
    rw [load, restore_outcome] at failed
    rw [load, restore, Loading.genesis]
    cases tried : engine.initGenesis genesis with
    | mk outcome after =>
      rw [tried] at failed
      rw [show outcome = .error fault from failed]

/-- A refused loading may leave records, and changes nothing else. -/
theorem initGenesis_of_refused {genesis : GenesisState}
    (failed : (engine.initGenesis genesis).1 = .error fault) :
    (engine.initGenesis genesis).2 =
      { engine with store := (engine.initGenesis genesis).2.store } := by
  rw [initGenesis] at failed ⊢
  by_cases twice : engine.initialized = true
  · rw [if_pos twice]
  · rw [if_neg twice] at failed ⊢
    cases loaded : genesis.load engine.setup.format engine.store with
    | mk outcome store =>
      rw [loaded] at failed
      cases outcome with
      | error reason => rfl
      | ok _ =>
        dsimp only at failed ⊢
        split
        next breach checked => rfl
        next passed checked =>
          rw [checked] at failed
          cases failed

/-- A new engine stays as it is when it refuses a state, unless the state lacks a supply. Then it
keeps the records. -/
theorem initGenesis_new_of_refused {genesis : GenesisState}
    (failed : ((new setup generator).initGenesis genesis).1 = .error fault) :
    ((new setup generator).initGenesis genesis).2 = new setup generator ↔
      ¬ genesis.LacksSupply := by
  cases valid : genesis.validate with
  | error flaw =>
    have unchanged : ∃ reason, (new setup generator).initGenesis genesis =
        (.error reason, new setup generator) := initGenesis_refused (.inr ⟨flaw, valid⟩)
    obtain ⟨_, unchanged⟩ := unchanged
    have passes : ¬ genesis.LacksSupply := fun lacks => by
      rw [lacks.1] at valid
      cases valid
    exact iff_of_true (by rw [unchanged]) passes
  | ok _ =>
    rcases (sound_new setup generator).initGenesis_eq rfl valid with
      ⟨_, loaded, unnamed⟩ | ⟨accepted, _⟩
    · have lacks := (GenesisState.lacksSupply_iff valid).mpr unnamed
      refine iff_of_false (fun unchanged => ?_) (not_not.mpr lacks)
      -- The token without a supply of its own is now registered.
      obtain ⟨token, member, _⟩ := lacks.2
      obtain ⟨⟨_, symbols⟩, _⟩ := genesis.validate_eq_ok_iff.mp valid
      have registered := (Book.contains_tokens_load_empty symbols token.symbol).mpr
        (List.mem_map_of_mem member)
      have nothing : (Book.empty.load genesis).tokenStore setup.format = .empty := by
        have same := congrArg (fun engine => engine.store.tokens) unchanged
        rwa [loaded] at same
      rw [← SortedMap.contains_stored setup.format.encodeToken] at registered
      rw [Book.tokenStore] at nothing
      rw [nothing] at registered
      cases registered
    · rw [accepted] at failed
      cases failed

/-! ### Refusals in a row -/

theorem Unaccepted.initialized (unaccepted : Unaccepted setup generator refused engine) :
    engine.initialized = false := by
  induction unaccepted with
  | new => rfl
  | load before loading failed inductionHypothesis =>
    have loaded := load_of_refused failed
    rw [loaded] at failed ⊢
    rw [initGenesis_of_refused failed]
    exact inductionHypothesis
  | deliverThen before envelope persist inductionHypothesis =>
    rw [deliverThen_of_not_initialized inductionHypothesis]
    exact inductionHypothesis

/-- By induction on what has been tried, an engine that has not met a state which lacks a supply is
still a new one. -/
theorem Unaccepted.eq_new (unaccepted : Unaccepted setup generator refused engine)
    (supplied : ∀ state ∈ refused, ¬ state.LacksSupply) : engine = .new setup generator := by
  induction unaccepted with
  | new => rfl
  | load before loading failed inductionHypothesis =>
    obtain ⟨last, earlier⟩ := List.forall_mem_cons.mp supplied
    have same := inductionHypothesis earlier
    subst same
    have loaded := load_of_refused failed
    rw [loaded] at failed ⊢
    exact (initGenesis_new_of_refused failed).mpr last
  | deliverThen before envelope persist inductionHypothesis =>
    rw [deliverThen_of_not_initialized before.initialized]
    exact inductionHypothesis supplied

/-- A refused loading changes nothing but the records, and not even those if the checks of the list
have refused it. While no state that lacks a supply is tried, a refused loading leaves the engine as
it was, exactly if its state is no such state either, and what has been refused makes no difference
to the next loading: the engine takes it as a new one does. -/
theorem refused_loading_leaves_nothing (unaccepted : Unaccepted setup generator refused engine)
    (loading : Loading) :
    (∀ fault, (engine.load loading).1 = .error fault →
      (engine.load loading).2 = { engine with store := (engine.load loading).2.store } ∧
      (∀ flaw, loading.genesis.validate = .error flaw → (engine.load loading).2 = engine)) ∧
    ((∀ state ∈ refused, ¬ state.LacksSupply) →
      (∀ fault, (engine.load loading).1 = .error fault →
        ((engine.load loading).2 = engine ↔ ¬ loading.genesis.LacksSupply)) ∧
      engine.load loading = (new setup generator).load loading) := by
  constructor
  · intro fault failed
    have loaded := load_of_refused failed
    rw [loaded] at failed ⊢
    refine ⟨initGenesis_of_refused failed, fun flaw invalid => ?_⟩
    obtain ⟨_, unchanged⟩ := initGenesis_refused (.inr ⟨flaw, invalid⟩)
    rw [unchanged]
  · intro supplied
    have same := unaccepted.eq_new supplied
    subst same
    refine ⟨fun fault failed => ?_, rfl⟩
    have loaded := load_of_refused failed
    rw [loaded] at failed ⊢
    exact initGenesis_new_of_refused failed

theorem refused_loading_leaves_nothing_noAddress :
    ∃ engine,
      Unaccepted ⟨.proto, {}⟩ (.digest 0 3) [.noAddress] engine ∧
      ¬ GenesisState.noAddress.LacksSupply ∧
      (engine.load (.resume .noAddress 5 7)).1 = .error (.badGenesis .accountAddress) ∧
      (engine.load (.resume .noAddress 5 7)).2 = engine ∧
      (engine.load (.start .oneToken)).1 = .ok () ∧
      engine.load (.start .oneToken) =
        (new ⟨.proto, {}⟩ (.digest 0 3)).load (.start .oneToken) := by
  have first : ((new ⟨.proto, {}⟩ (.digest 0 3)).load (.start .noAddress)).1 =
      .error (.badGenesis .accountAddress) := by decide +kernel
  have tried : Unaccepted ⟨.proto, {}⟩ (.digest 0 3) [.noAddress]
      ((new ⟨.proto, {}⟩ (.digest 0 3)).load (.start .noAddress)).2 :=
    .load .new (.start .noAddress) first
  have supplied : ¬ GenesisState.noAddress.LacksSupply := by decide +kernel
  have listed : ∀ state ∈ [GenesisState.noAddress], ¬ state.LacksSupply :=
    List.forall_mem_singleton.mpr supplied
  have refused : (((new ⟨.proto, {}⟩ (.digest 0 3)).load (.start .noAddress)).2.load
      (.resume .noAddress 5 7)).1 = .error (.badGenesis .accountAddress) := by decide +kernel
  exact ⟨_, tried, supplied, refused,
    (((refused_loading_leaves_nothing tried (.resume .noAddress 5 7)).2 listed).1 _ refused).mpr
      supplied,
    by decide +kernel, ((refused_loading_leaves_nothing tried (.start .oneToken)).2 listed).2⟩

/-- A state that lacks a supply is refused and stays. The next one is loaded over it, so that the
account which it does not mention is still there. -/
theorem foreignSupply_left_behind :
    ((new ⟨.proto, {}⟩ (.digest 0 3)).load (.start .foreignSupply)).1 =
        .error (.breach (.noSupply "GLD-1A2")) ∧
      (new ⟨.proto, {}⟩ (.digest 0 3)).exportState = .ok .empty ∧
      ((new ⟨.proto, {}⟩ (.digest 0 3)).load (.start .foreignSupply)).2.exportState =
        .ok .foreignSupply ∧
      (((new ⟨.proto, {}⟩ (.digest 0 3)).load (.start .foreignSupply)).2.load
        (.start .oneToken)).1 = .ok () ∧
      (((new ⟨.proto, {}⟩ (.digest 0 3)).load (.start .foreignSupply)).2.load
        (.start .oneToken)).2.exportState =
          .ok ⟨GenesisState.oneToken.tokens,
            GenesisState.oneToken.accounts ++ GenesisState.foreignSupply.accounts⟩ ∧
      ((new ⟨.proto, {}⟩ (.digest 0 3)).load (.start .oneToken)).2.exportState =
        .ok .oneToken :=
  ⟨by decide +kernel, by decide +kernel, by decide +kernel, by decide +kernel, by decide +kernel,
    by decide +kernel⟩

end Engine

end TokenLedger
