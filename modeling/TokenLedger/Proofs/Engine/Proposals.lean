/-
This file says which symbol an issuance is given. The generator proposes one symbol after the other,
and the first one that is neither empty nor registered is taken; the generator then stands at this
proposal, or at the last one if none of those that are made can be taken. By induction on the number
of proposals, the search finds the least place of a free one. A digest proposal ends in a dash and a
fixed number of digits, so that the requested symbol can be read off it: proposals for different
symbols are never the same, and what is in the way of one is in the genesis state or has been issued
for the same symbol.
-/

import Mathlib
import TokenLedger.Proofs.Engine.Issuance

namespace TokenLedger

open Step

/-! ### The search -/

namespace SymbolGenerator

variable (generator : SymbolGenerator) (requested : String) (taken : String → Bool)

/-- The proposal at the given place, counted from where the generator stands. -/
def proposal (place : Nat) : String :=
  generator.candidate (generator.nonce + UInt64.ofNat place) requested

/-- The places of the next proposals, as many as given, that are neither empty nor taken. -/
def freePlaces (attempts : Nat) : Set Nat :=
  {place | 1 ≤ place ∧ place ≤ attempts ∧ generator.proposal requested place ≠ "" ∧
    taken (generator.proposal requested place) = false}

/-- The generator after as many proposals as given. -/
def advance (count : Nat) : SymbolGenerator :=
  generator.resume (generator.nonce + UInt64.ofNat count)

theorem advance_zero : generator.advance 0 = generator := by
  have same : generator.nonce + UInt64.ofNat 0 = generator.nonce := UInt64.add_zero _
  rw [advance, resume, same]

theorem advance_advance (first second : Nat) :
    (generator.advance first).advance second = generator.advance (first + second) := by
  rw [advance, advance, advance, resume, resume, resume, UInt64.ofNat_add, ← UInt64.add_assoc]

theorem proposal_advance (count place : Nat) :
    (generator.advance count).proposal requested place =
      generator.proposal requested (count + place) := by
  rw [proposal, proposal, UInt64.ofNat_add, ← UInt64.add_assoc]
  rfl

/-- The proposals are looked at one by one. -/
theorem firstFree?_succ (attempts : Nat) :
    generator.firstFree? taken requested (attempts + 1) =
      if generator.proposal requested 1 ≠ "" ∧ taken (generator.proposal requested 1) = false then
        (some (generator.proposal requested 1), generator.advance 1)
      else (generator.advance 1).firstFree? taken requested attempts := rfl

variable {generator requested taken} {attempts place : Nat}

theorem mem_freePlaces_iff :
    place ∈ generator.freePlaces requested taken attempts ↔
      1 ≤ place ∧ place ≤ attempts ∧ generator.proposal requested place ≠ "" ∧
        taken (generator.proposal requested place) = false := Iff.rfl

/-- If the first proposal is not free, a free one is one place nearer to the next. -/
theorem succ_mem_freePlaces_iff
    (passed : ¬(generator.proposal requested 1 ≠ "" ∧
      taken (generator.proposal requested 1) = false)) :
    place + 1 ∈ generator.freePlaces requested taken (attempts + 1) ↔
      place ∈ (generator.advance 1).freePlaces requested taken attempts := by
  rw [mem_freePlaces_iff, mem_freePlaces_iff, proposal_advance, Nat.add_comm 1]
  constructor
  · rintro ⟨_, within, free⟩
    refine ⟨Nat.one_le_iff_ne_zero.mpr ?_, Nat.le_of_succ_le_succ within, free⟩
    rintro rfl
    exact passed free
  · rintro ⟨_, within, free⟩
    exact ⟨Nat.le_add_left 1 place, Nat.succ_le_succ within, free⟩

/-- By induction on the number of proposals, the free one at the least place is found. -/
theorem firstFree?_of_isLeast
    (least : IsLeast (generator.freePlaces requested taken attempts) place) :
    generator.firstFree? taken requested attempts =
      (some (generator.proposal requested place), generator.advance place) := by
  induction attempts generalizing generator place with
  | zero =>
    obtain ⟨positive, within, _⟩ := least.1
    omega
  | succ attempts inductionHypothesis =>
    obtain ⟨positive, _⟩ := least.1
    rw [firstFree?_succ]
    by_cases free : generator.proposal requested 1 ≠ "" ∧
        taken (generator.proposal requested 1) = false
    · have first : 1 ∈ generator.freePlaces requested taken (attempts + 1) :=
        ⟨le_rfl, Nat.le_add_left 1 attempts, free⟩
      rw [if_pos free, Nat.le_antisymm (least.2 first) positive]
    · obtain ⟨before, rfl⟩ := Nat.exists_eq_add_of_le' positive
      have later : IsLeast ((generator.advance 1).freePlaces requested taken attempts) before :=
        ⟨(succ_mem_freePlaces_iff free).mp least.1, fun other isFree =>
          Nat.le_of_succ_le_succ (least.2 ((succ_mem_freePlaces_iff free).mpr isFree))⟩
      rw [if_neg free, inductionHypothesis later, proposal_advance, advance_advance, Nat.add_comm 1]

/-- By induction on the number of proposals, all are made if none is free. -/
theorem firstFree?_of_noPlace (noPlace : generator.freePlaces requested taken attempts = ∅) :
    generator.firstFree? taken requested attempts = (none, generator.advance attempts) := by
  induction attempts generalizing generator with
  | zero => rw [advance_zero, firstFree?]
  | succ attempts inductionHypothesis =>
    rw [Set.eq_empty_iff_forall_notMem] at noPlace
    have passed : ¬(generator.proposal requested 1 ≠ "" ∧
        taken (generator.proposal requested 1) = false) :=
      fun free => noPlace 1 ⟨le_rfl, Nat.le_add_left 1 attempts, free⟩
    have later : (generator.advance 1).freePlaces requested taken attempts = ∅ :=
      Set.eq_empty_iff_forall_notMem.mpr fun place isFree =>
        noPlace (place + 1) ((succ_mem_freePlaces_iff passed).mpr isFree)
    rw [firstFree?_succ, if_neg passed, inductionHypothesis later, advance_advance, Nat.add_comm 1]

end SymbolGenerator

/-! ### The symbol of an issuance -/

/-- The places of the proposals that an issuance can take, among those that it makes. -/
def Work.freePlaces (work : Work) (setup : Setup) (requested : String) : Set Nat :=
  work.generator.freePlaces requested (Registry.isRegistered work.tokens)
    (max setup.params.maxSymbolAttempts 1).toNat

theorem exec_findSymbol_of_isLeast {setup : Setup} {requested : String} {work : Work} {place : Nat}
    (least : IsLeast (work.freePlaces setup requested) place) :
    exec (findSymbol setup requested) work =
      (.ok (work.generator.proposal requested place),
        { work with generator := work.generator.advance place }) := by
  rw [exec_findSymbol, SymbolGenerator.firstFree?_of_isLeast least]

theorem exec_findSymbol_of_noPlace {setup : Setup} {requested : String} {work : Work}
    (noPlace : work.freePlaces setup requested = ∅) :
    exec (findSymbol setup requested) work =
      (.error (.noFreeSymbol requested (max setup.params.maxSymbolAttempts 1)),
        { work with
          generator := work.generator.advance (max setup.params.maxSymbolAttempts 1).toNat }) := by
  rw [exec_findSymbol, SymbolGenerator.firstFree?_of_noPlace noPlace]

/-! ### Digest proposals -/

/-- With a fixed number of digits, the requested symbol can be read off a derived one, whatever
dashes and digits it has itself. -/
theorem IsDerived.requested_eq {requested second symbol : String} {count : Nat}
    (derived : IsDerived requested count symbol) (other : IsDerived second count symbol) :
    requested = second := by
  obtain ⟨digits, rfl, length, _⟩ := derived
  obtain ⟨others, same, otherLength, _⟩ := other
  have chars := congrArg String.toList same
  simp only [String.toList_append, String.toList_ofList, List.append_assoc] at chars
  have suffixes : ("-".toList ++ digits).length = ("-".toList ++ others).length := by
    rw [List.length_append, List.length_append, length, otherLength]
  exact String.toList_inj.mp (List.append_inj' chars suffixes).1

theorem IsDerived.ne_empty {requested symbol : String} {count : Nat}
    (derived : IsDerived requested count symbol) : symbol ≠ "" := by
  obtain ⟨digits, rfl, _⟩ := derived
  simp

namespace SymbolGenerator

/-- Digest proposals for different symbols differ, also between seeds. -/
theorem requested_eq_of_digestCandidate {seed other suffixLength nonce next : UInt64}
    {requested second : String}
    (same : digestCandidate seed suffixLength nonce requested =
      digestCandidate other suffixLength next second) : requested = second := by
  have derived := isDerived_digestCandidate seed suffixLength nonce requested
  rw [same] at derived
  exact derived.requested_eq (isDerived_digestCandidate other suffixLength next second)

end SymbolGenerator

/-- As a digest proposal is never empty, those that are not registered are free. -/
theorem Work.freePlaces_of_digests {work : Work} {seed suffixLength : UInt64}
    (digests : work.generator.candidate = SymbolGenerator.digestCandidate seed suffixLength)
    (setup : Setup) (requested : String) :
    work.freePlaces setup requested =
      {place | 1 ≤ place ∧ place ≤ (max setup.params.maxSymbolAttempts 1).toNat ∧
        Registry.isRegistered work.tokens (work.generator.proposal requested place) = false} := by
  ext place
  have derived : work.generator.proposal requested place ≠ "" := by
    rw [SymbolGenerator.proposal, digests]
    exact (SymbolGenerator.isDerived_digestCandidate _ _ _ _).ne_empty
  rw [Work.freePlaces, SymbolGenerator.mem_freePlaces_iff]
  exact and_congr_right fun _ => and_congr_right fun _ => and_iff_right derived

namespace Engine

variable {engine : Engine} {genesis : GenesisState}

/-- What is registered under a digest proposal is in the genesis state, or has been issued for the
same requested symbol. -/
theorem Loaded.collision {seed suffixLength : UInt64} (loaded : engine.Loaded genesis)
    (digests : engine.generator.candidate = SymbolGenerator.digestCandidate seed suffixLength)
    {envelopes : List Envelope} {nonce : UInt64} {requested : String}
    (collides : utf8 (SymbolGenerator.digestCandidate seed suffixLength nonce requested) ∈
      (engine.run envelopes).store.tokens.keys) :
    SymbolGenerator.digestCandidate seed suffixLength nonce requested ∈
        genesis.tokens.map Token.symbol ∨
      ∃ one ∈ engine.issuances envelopes, one.terms.symbol = requested ∧
        one.symbol = SymbolGenerator.digestCandidate seed suffixLength nonce requested := by
  obtain ⟨valid, sound⟩ := loaded.sound
  obtain ⟨⟨_, symbols⟩, _⟩ := genesis.validate_eq_ok_iff.mp valid
  obtain ⟨after, later, registers⟩ := sound.run_registers envelopes
  obtain ⟨symbol, registered, same⟩ := (later.mem_tokenKeys_iff _).mp collides
  obtain rfl := utf8_injective same
  rcases (registers.symbols _).mp registered with first | issued
  · exact .inl ((Book.contains_tokens_load_empty symbols _).mp first)
  · obtain ⟨one, isIssued, named⟩ := List.mem_map.mp issued
    obtain ⟨number, proposed⟩ := registers.proposed one isIssued
    rw [digests, named] at proposed
    exact .inr ⟨one, isIssued,
      (SymbolGenerator.requested_eq_of_digestCandidate proposed).symm, named⟩

/-- An issuance takes the first proposal that is neither empty nor registered, if there is one among
those that are made, at least one; the generator then stands at it. Otherwise the issuance fails
with the number of proposals that were made, and the generator stands at the last of them. A digest
proposal is never empty, so that there the first one that is not registered is taken. Digest
proposals for different symbols are never the same; what is registered under one, after whatever
envelopes, is in the genesis state or has been issued for the same requested symbol. -/
theorem proposals_taken_first_fit (setup : Setup) (requested : String) (work : Work) :
    ((work.freePlaces setup requested).Nonempty →
      ∃ place, IsLeast (work.freePlaces setup requested) place ∧
        exec (findSymbol setup requested) work =
          (.ok (work.generator.proposal requested place),
            { work with
              generator :=
                work.generator.resume (work.generator.nonce + UInt64.ofNat place) })) ∧
    (work.freePlaces setup requested = ∅ →
      exec (findSymbol setup requested) work =
        (.error (.noFreeSymbol requested (max setup.params.maxSymbolAttempts 1)),
          { work with
            generator :=
              work.generator.resume (work.generator.nonce +
                UInt64.ofNat (max setup.params.maxSymbolAttempts 1).toNat) })) ∧
    (∀ seed suffixLength,
      work.generator.candidate = SymbolGenerator.digestCandidate seed suffixLength →
        work.freePlaces setup requested =
          {place | 1 ≤ place ∧ place ≤ (max setup.params.maxSymbolAttempts 1).toNat ∧
            Registry.isRegistered work.tokens (work.generator.proposal requested place) = false}) ∧
    (∀ (second : String) (seed other suffixLength nonce next : UInt64),
      SymbolGenerator.digestCandidate seed suffixLength nonce requested =
        SymbolGenerator.digestCandidate other suffixLength next second → requested = second) ∧
    ∀ (engine : Engine) (genesis : GenesisState) (seed suffixLength nonce : UInt64)
      (envelopes : List Envelope), engine.Loaded genesis →
      engine.generator.candidate = SymbolGenerator.digestCandidate seed suffixLength →
      utf8 (SymbolGenerator.digestCandidate seed suffixLength nonce requested) ∈
        (engine.run envelopes).store.tokens.keys →
      SymbolGenerator.digestCandidate seed suffixLength nonce requested ∈
          genesis.tokens.map Token.symbol ∨
        ∃ one ∈ engine.issuances envelopes, one.terms.symbol = requested ∧
          one.symbol = SymbolGenerator.digestCandidate seed suffixLength nonce requested := by
  refine ⟨fun some => ?_, exec_findSymbol_of_noPlace,
    fun _ _ digests => Work.freePlaces_of_digests digests setup requested,
    fun _ _ _ _ _ _ => SymbolGenerator.requested_eq_of_digestCandidate,
    fun _ _ _ _ _ _ loaded digests => loaded.collision digests⟩
  have least : IsLeast (work.freePlaces setup requested) (sInf (work.freePlaces setup requested)) :=
    ⟨Nat.sInf_mem some, fun _ => Nat.sInf_le⟩
  exact ⟨_, least, exec_findSymbol_of_isLeast least⟩

/-- Work on a registry in which the given symbols are taken. -/
def workOn (symbols : List String) (generator : SymbolGenerator) : Work where
  tokens := .ofStore (.ofList (symbols.map fun symbol => (utf8 symbol, [])))
  accounts := .ofStore .empty
  generator

/-- Two proposals for the symbol are in the way of a third, or leave none where two are made. -/
def thirdProposal : Work := workOn ["GLD-887", "GLD-5C6"] (.digest 0 3)

/-- One token, and a generator that draws on digests. -/
def oneTokenMessages : Engine :=
  ((new ⟨.proto, {}⟩ (.digest 0 3)).initGenesis .oneToken).2

theorem proposals_taken_first_fit_collisions :
    (thirdProposal.freePlaces ⟨.json, {}⟩ "GLD").Nonempty ∧
    (∃ place, IsLeast (thirdProposal.freePlaces ⟨.json, {}⟩ "GLD") place ∧
      (exec (findSymbol ⟨.json, {}⟩ "GLD") thirdProposal).1 =
        .ok (thirdProposal.generator.proposal "GLD" place)) ∧
    thirdProposal.freePlaces ⟨.json, ⟨3, 2, false⟩⟩ "GLD" = ∅ ∧
    (exec (findSymbol ⟨.json, ⟨3, 2, false⟩⟩ "GLD") thirdProposal).1 =
      .error (.noFreeSymbol "GLD" 2) ∧
    oneTokenMessages.Loaded .oneToken ∧
    utf8 (SymbolGenerator.digestCandidate 0 3 2 "GLD") ∈
      (oneTokenMessages.run twoIssuances).store.tokens.keys ∧
    (SymbolGenerator.digestCandidate 0 3 2 "GLD" ∈ GenesisState.oneToken.tokens.map Token.symbol ∨
      ∃ one ∈ oneTokenMessages.issuances twoIssuances, one.terms.symbol = "GLD" ∧
        one.symbol = SymbolGenerator.digestCandidate 0 3 2 "GLD") := by
  have some : (thirdProposal.freePlaces ⟨.json, {}⟩ "GLD").Nonempty :=
    ⟨3, by decide, by decide, by decide +kernel, by decide +kernel⟩
  have noPlace : thirdProposal.freePlaces ⟨.json, ⟨3, 2, false⟩⟩ "GLD" = ∅ := by
    refine Set.eq_empty_iff_forall_notMem.mpr fun place isFree => ?_
    obtain ⟨positive, within, _, free⟩ := isFree
    have within : place ≤ 2 := within
    interval_cases place
    · exact absurd free (by decide +kernel)
    · exact absurd free (by decide +kernel)
  have loaded : oneTokenMessages.Loaded .oneToken :=
    .initGenesis (.new _ _) rfl (by decide +kernel)
  have digests : oneTokenMessages.generator.candidate = SymbolGenerator.digestCandidate 0 3 := by
    rw [oneTokenMessages, initGenesis_generator]
    rfl
  have collides : utf8 (SymbolGenerator.digestCandidate 0 3 2 "GLD") ∈
      (oneTokenMessages.run twoIssuances).store.tokens.keys := by
    decide +kernel
  obtain ⟨found, _, _, _, collision⟩ :=
    proposals_taken_first_fit ⟨.json, {}⟩ "GLD" thirdProposal
  obtain ⟨_, failed, _⟩ := proposals_taken_first_fit ⟨.json, ⟨3, 2, false⟩⟩ "GLD" thirdProposal
  obtain ⟨place, least, taken⟩ := found some
  exact ⟨some, ⟨place, least, congrArg Prod.fst taken⟩, noPlace,
    (congrArg Prod.fst (failed noPlace)).trans (by decide), loaded, collides,
    collision _ _ _ _ _ _ loaded digests collides⟩

/-- A proposal that nothing is registered under may still be passed by: the empty one is. -/
theorem findSymbol_passes_empty_proposal :
    IsLeast {place | 1 ≤ place ∧ place ≤ (max ({} : Params).maxSymbolAttempts 1).toNat ∧
      Registry.isRegistered (workOn [] (.ofList ["", "GLD-1"])).tokens
        ((workOn [] (.ofList ["", "GLD-1"])).generator.proposal "GLD" place) = false} 1 ∧
    (workOn [] (.ofList ["", "GLD-1"])).generator.proposal "GLD" 1 = "" ∧
    (exec (findSymbol ⟨.json, {}⟩ "GLD") (workOn [] (.ofList ["", "GLD-1"]))).1 = .ok "GLD-1" ∧
    (exec (findSymbol ⟨.json, {}⟩ "GLD") (workOn [] (.ofList ["", "GLD-1"]))).2.generator.nonce =
      2 := by
  refine ⟨⟨⟨by decide, by decide, by decide⟩, fun place isFree => isFree.1⟩, ?_, ?_, ?_⟩
  all_goals decide

end Engine

end TokenLedger
