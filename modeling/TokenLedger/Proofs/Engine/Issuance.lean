/-
This file proves that no symbol is issued twice. The digits after a requested symbol may be few, and
then proposals collide; what keeps the symbols apart is that an issuance takes a proposal only if
nothing is registered under it, and that no request drops or renames what is registered. A posting
registers the symbol that it issues and no other; by induction on the envelopes, the symbols that are
registered after a run are those of the genesis state and those that the run has issued, each once.
-/

import Mathlib
import TokenLedger.Proofs.Engine.Evolution

namespace TokenLedger

/-! ### The form of a symbol -/

/-- A hexadecimal digit, with a capital letter from ten on. -/
def IsCapitalHex (digit : Char) : Prop :=
  ('0' ≤ digit ∧ digit ≤ '9') ∨ ('A' ≤ digit ∧ digit ≤ 'F')

instance (digit : Char) : Decidable (IsCapitalHex digit) :=
  inferInstanceAs (Decidable (_ ∨ _))

/-- The symbol is the requested one, a dash, and as many hexadecimal digits as given. -/
def IsDerived (requested : String) (count : Nat) (symbol : String) : Prop :=
  ∃ digits : List Char, symbol = requested ++ "-" ++ String.ofList digits ∧
    digits.length = count ∧ ∀ digit ∈ digits, IsCapitalHex digit

theorem isCapitalHex_hexDigit {value : UInt8} (small : value.toNat < 16) :
    IsCapitalHex (hexDigit 'A' value) := by
  have every : ∀ number : Fin 16, IsCapitalHex (hexDigit 'A' (UInt8.ofNat number)) := by decide
  have written := every ⟨value.toNat, small⟩
  rwa [UInt8.ofNat_toNat] at written

theorem isCapitalHex_of_mem_hexDigits {bytes : Bytes} {digit : Char}
    (member : digit ∈ hexDigits 'A' bytes) : IsCapitalHex digit := by
  obtain ⟨byte, _, written⟩ := List.mem_flatMap.mp member
  have bound := byte.toNat_lt
  rcases List.mem_pair.mp written with rfl | rfl
  · refine isCapitalHex_hexDigit ?_
    rw [UInt8.toNat_div]
    exact Nat.div_lt_of_lt_mul bound
  · refine isCapitalHex_hexDigit ?_
    rw [UInt8.toNat_mod]
    exact Nat.mod_lt _ (by decide)

theorem length_hexDigits (ten : Char) (bytes : Bytes) :
    (hexDigits ten bytes).length = 2 * bytes.length := by
  induction bytes with
  | nil => rfl
  | cons byte rest inductionHypothesis =>
    rw [hexDigits, List.flatMap_cons, List.length_append, ← hexDigits, inductionHypothesis,
      List.length_cons]
    exact Nat.add_comm _ _

theorem Sha256.length_digest (message : Bytes) : (digest message).length = 32 := by
  simp [digest, length_littleEndian]

/-- A digest has more digits than are ever used. -/
theorem SymbolGenerator.isDerived_digestCandidate (seed suffixLength nonce : UInt64)
    (requested : String) :
    IsDerived requested (min 64 (max 1 suffixLength.toNat))
      (digestCandidate seed suffixLength nonce requested) := by
  refine ⟨_, rfl, ?_, fun digit member => ?_⟩
  · rw [List.length_take, length_hexDigits, Sha256.length_digest, usedDigits]
    exact Nat.min_eq_left (Nat.min_le_left _ _)
  · exact isCapitalHex_of_mem_hexDigits (List.mem_of_mem_take member)

/-! ### What is issued -/

/-- A token that has been issued: its terms, and the symbol in the receipt. -/
structure Issued where
  terms : Issuance
  symbol : String
  deriving DecidableEq

/-- What a request has issued that comes to an outcome. -/
def Request.issued? : Request → Outcome → Option Issued
  | .issue terms, .ok receipt => some ⟨terms, receipt.symbol⟩
  | _, _ => none

namespace Book

variable {params : Params} {candidate : UInt64 → String → String} {nonce next : UInt64}
  {book between after : Book} {request : Request} {receipt : Receipt} {issued more : List Issued}

/-- Tokens have been issued one after the other, and nothing else has become of the symbols that are
registered. -/
structure Registers (candidate : UInt64 → String → String) (issued : List Issued)
    (book after : Book) : Prop where
  symbols : ∀ symbol, after.tokens.contains symbol = true ↔
    book.tokens.contains symbol = true ∨ symbol ∈ issued.map Issued.symbol
  fresh : ∀ one ∈ issued, book.tokens.contains one.symbol = false
  distinct : (issued.map Issued.symbol).Nodup
  proposed : ∀ one ∈ issued, ∃ number, one.symbol = candidate number one.terms.symbol
  recorded : ∀ one ∈ issued, ∃ token, after.tokens.get? one.symbol = some token ∧
    token.originalSymbol = one.terms.symbol ∧ token.owner = one.terms.source
  kept : ∀ symbol token, book.tokens.get? symbol = some token →
    ∃ supply, after.tokens.get? symbol = some { token with totalSupply := supply }

theorem Registers.refl (candidate : UInt64 → String → String) (book : Book) :
    Registers candidate [] book book where
  symbols := by simp
  fresh := nofun
  distinct := List.nodup_nil
  proposed := nofun
  recorded := nofun
  kept := fun _ token registered => ⟨token.totalSupply, registered⟩

/-- What is issued later is fresh to all that is registered by then, so that it differs from what was
issued before. -/
theorem Registers.trans (first : Registers candidate issued book between)
    (second : Registers candidate more between after) :
    Registers candidate (issued ++ more) book after where
  symbols := by
    intro symbol
    rw [second.symbols, first.symbols, List.map_append, List.mem_append, or_assoc]
  fresh := by
    intro one member
    rcases List.mem_append.mp member with earlier | later
    · exact first.fresh one earlier
    · have unregistered := second.fresh one later
      refine Bool.eq_false_of_not_eq_true fun registered => ?_
      rw [(first.symbols one.symbol).mpr (.inl registered)] at unregistered
      cases unregistered
  distinct := by
    rw [List.map_append]
    refine first.distinct.append second.distinct fun symbol earlier later => ?_
    obtain ⟨one, member, rfl⟩ := List.mem_map.mp later
    have unregistered := second.fresh one member
    rw [(first.symbols one.symbol).mpr (.inr earlier)] at unregistered
    cases unregistered
  proposed := by
    intro one member
    rcases List.mem_append.mp member with earlier | later
    · exact first.proposed one earlier
    · exact second.proposed one later
  recorded := by
    intro one member
    rcases List.mem_append.mp member with earlier | later
    · obtain ⟨token, found, names⟩ := first.recorded one earlier
      obtain ⟨supply, still⟩ := second.kept one.symbol token found
      exact ⟨_, still, names⟩
    · exact second.recorded one later
  kept := by
    intro symbol token registered
    obtain ⟨supply, found⟩ := first.kept symbol token registered
    obtain ⟨last, still⟩ := second.kept symbol _ found
    exact ⟨last, still⟩

theorem contains_withToken (book : Book) (symbol : String) (token : Token) (other : String) :
    (book.withToken symbol token).tokens.contains other = true ↔
      book.tokens.contains other = true ∨ other = symbol := by
  rw [withToken, SortedMap.contains_eq_isSome, SortedMap.get?_insert,
    SortedMap.contains_eq_isSome]
  by_cases same : other = symbol
  · simp [same]
  · simp [same]

/-- A registered token that is recorded anew registers nothing. -/
theorem contains_setSupply {symbol : String} {token : Token}
    (registered : book.tokens.get? symbol = some token) (address : Address)
    (amount supply : Amount) (other : String) :
    ((book.setUnfrozen address symbol amount).setSupply symbol token supply).tokens.contains other =
        true ↔ book.tokens.contains other = true := by
  refine (contains_withToken _ symbol _ other).trans ⟨?_, .inl⟩
  rintro (before | rfl)
  · exact before
  · rw [SortedMap.contains_eq_isSome, registered]
    rfl

/-- A posting registers what it issues, and nothing else. -/
theorem Posted.registers
    (posted : Posted params candidate nonce book request receipt after next)
    (complete : book.Complete) :
    Registers candidate (request.issued? (.ok receipt)).toList book after := by
  have kept : ∀ symbol token, book.tokens.get? symbol = some token →
      ∃ supply, after.tokens.get? symbol = some { token with totalSupply := supply } := by
    intro symbol token registered
    rcases posted.token_cases complete registered with ⟨same, _⟩ | ⟨supply, changed, _⟩
    · exact ⟨token.totalSupply, same⟩
    · exact ⟨supply, changed⟩
  -- An order issues nothing, so that all there is to say is which symbols are registered.
  have order (nothing : request.issued? (.ok receipt) = none)
      (same : ∀ symbol, after.tokens.contains symbol = true ↔ book.tokens.contains symbol = true) :
      Registers candidate (request.issued? (.ok receipt)).toList book after := by
    rw [nothing]
    exact ⟨by simpa using same, nofun, List.nodup_nil, nofun, nofun, kept⟩
  cases posted with
  | issue valid parsed found fits =>
    obtain ⟨_, unregistered⟩ := isFree_of_firstFree? _ _ found
    refine ⟨fun symbol => ?_, ?_, List.nodup_singleton _, ?_, ?_, kept⟩
    · rw [contains_withToken]
      exact or_congr Iff.rfl List.mem_singleton.symm
    · refine List.forall_mem_singleton.mpr ?_
      rw [SortedMap.contains_eq_isSome]
      exact Option.isSome_eq_false_iff.mpr (Option.isNone_iff_eq_none.mpr unregistered)
    · exact List.forall_mem_singleton.mpr ⟨_, rfl⟩
    · exact List.forall_mem_singleton.mpr ⟨_, SortedMap.get?_insert_self _ _ _, rfl, rfl⟩
  | mint valid registered owned mintable parsed fits supplyFits =>
    exact order rfl (contains_setSupply registered _ _ _)
  | burn valid registered owned parsed enough supplyEnough =>
    exact order rfl (contains_setSupply registered _ _ _)
  | freeze valid parsed enough fits => exact order rfl fun _ => Iff.rfl
  | unfreeze valid parsed enough fits => exact order rfl fun _ => Iff.rfl

end Book

/-! ### Runs -/

namespace Engine

variable {engine : Engine} {book : Book} {genesis : GenesisState}

/-- What is issued while envelopes are delivered in order, whatever becomes of each. -/
def issuances (engine : Engine) : List Envelope → List Issued
  | [] => []
  | envelope :: rest =>
    (envelope.request.issued? (engine.deliver envelope).1).toList ++
      (engine.deliver envelope).2.issuances rest

/-- A delivery registers what it issues, and nothing else. -/
theorem Sound.deliver_registers (sound : engine.Sound book) (envelope : Envelope) :
    ∃ after, (engine.deliver envelope).2.Sound after ∧
      Book.Registers engine.generator.candidate
        (envelope.request.issued? (engine.deliver envelope).1).toList book after := by
  rcases sound.deliver_cases envelope with
    ⟨fault, place, refused⟩ | ⟨receipt, after, next, posted, delivered⟩
  · have nothing : envelope.request.issued? (.error fault) = none := by
      cases envelope.request <;> rfl
    rw [refused, nothing]
    exact ⟨book, sound.withPlace place, .refl _ book⟩
  · rw [delivered]
    exact ⟨after, sound.withPosted posted _, posted.registers sound.complete⟩

/-- By induction on the envelopes, a run registers what it issues, and nothing else. -/
theorem Sound.run_registers (sound : engine.Sound book) (envelopes : List Envelope) :
    ∃ after, (engine.run envelopes).Sound after ∧
      Book.Registers engine.generator.candidate (engine.issuances envelopes) book after := by
  induction envelopes generalizing engine book with
  | nil => exact ⟨book, sound, .refl _ book⟩
  | cons envelope rest inductionHypothesis =>
    obtain ⟨between, delivered, first⟩ := sound.deliver_registers envelope
    obtain ⟨after, later, others⟩ := inductionHypothesis delivered
    rw [(sameRules_deliver engine envelope).candidate] at others
    exact ⟨after, later, first.trans others⟩

/-- The keys of the token store are the registered symbols. -/
theorem Sound.mem_tokenKeys_iff (sound : engine.Sound book) (key : Bytes) :
    key ∈ engine.store.tokens.keys ↔
      ∃ symbol, book.tokens.contains symbol = true ∧ utf8 symbol = key := by
  have keys : engine.store.tokens.keys = book.tokens.entries.map fun entry => utf8 entry.1 := by
    rw [sound.tokens_eq, Book.tokenStore, SortedMap.keys, SortedMap.entries_stored, List.map_map]
    rfl
  rw [keys, List.mem_map]
  constructor
  · rintro ⟨⟨symbol, token⟩, member, same⟩
    refine ⟨symbol, ?_, same⟩
    rw [SortedMap.contains_eq_isSome, SortedMap.mem_entries_iff.mp member]
    rfl
  · rintro ⟨symbol, registered, same⟩
    rw [SortedMap.contains_eq_isSome, Option.isSome_iff_exists] at registered
    obtain ⟨token, found⟩ := registered
    exact ⟨(symbol, token), SortedMap.mem_entries_iff.mpr found, same⟩

/-- After a genesis state has been loaded, whatever envelopes are delivered, no symbol is issued that
was issued before or is in the genesis state. Each is the requested symbol, a dash, and as many
digits as the generator is to use, at least one and at most sixty-four. The keys of the registry are
the symbols of the genesis state and those that have been issued, and nothing else, and under an
issued one there is a token of whoever has issued it, with the symbol that was requested. -/
theorem issued_symbols_unique {seed suffixLength : UInt64} (loaded : engine.Loaded genesis)
    (digests :
      engine.generator.candidate = SymbolGenerator.digestCandidate seed suffixLength)
    (envelopes : List Envelope) :
    (genesis.tokens.map Token.symbol ++
      (engine.issuances envelopes).map Issued.symbol).Nodup ∧
    (∀ one ∈ engine.issuances envelopes,
      IsDerived one.terms.symbol (min 64 (max 1 suffixLength.toNat)) one.symbol) ∧
    (engine.run envelopes).store.tokens.keys.Perm
      ((genesis.tokens.map Token.symbol ++
        (engine.issuances envelopes).map Issued.symbol).map utf8) ∧
    (∀ one ∈ engine.issuances envelopes, ∃ token,
      (engine.run envelopes).tokenAt one.symbol = .ok token ∧
        token.originalSymbol = one.terms.symbol ∧ token.owner = one.terms.source) := by
  obtain ⟨valid, sound⟩ := loaded.sound
  obtain ⟨⟨_, symbols⟩, _⟩ := genesis.validate_eq_ok_iff.mp valid
  obtain ⟨after, later, registers⟩ := sound.run_registers envelopes
  have distinct : (genesis.tokens.map Token.symbol ++
      (engine.issuances envelopes).map Issued.symbol).Nodup := by
    refine symbols.append registers.distinct fun symbol first issued => ?_
    obtain ⟨one, member, rfl⟩ := List.mem_map.mp issued
    have unregistered := registers.fresh one member
    rw [(Book.contains_tokens_load_empty symbols one.symbol).mpr first] at unregistered
    cases unregistered
  refine ⟨distinct, fun one member => ?_, ?_, fun one member => ?_⟩
  · obtain ⟨number, proposed⟩ := registers.proposed one member
    rw [proposed, digests]
    exact SymbolGenerator.isDerived_digestCandidate seed suffixLength number one.terms.symbol
  · refine (List.perm_ext_iff_of_nodup (SortedMap.nodup_keys _)
      (distinct.map fun _ _ => utf8_injective)).mpr fun key => ?_
    simp only [later.mem_tokenKeys_iff, registers.symbols,
      Book.contains_tokens_load_empty symbols, List.mem_map, List.mem_append]
  · obtain ⟨token, found, names⟩ := registers.recorded one member
    exact ⟨token, later.tokenAt_eq_ok_iff.mpr found, names⟩

/-- Two issuances of one symbol, with a refusal in between. -/
def twoIssuances : List Envelope := [
  ⟨1, schemaVersion, .issue ⟨"bob", "Gold", "GLD", "5", true⟩⟩,
  ⟨2, schemaVersion, .order .mint ⟨"1", "GLD-1A2", "bob"⟩⟩,
  ⟨3, schemaVersion, .issue ⟨"carol", "Gold", "GLD", "7", false⟩⟩]

theorem issued_symbols_unique_oneToken :
    ∃ engine : Engine,
      engine.Loaded .oneToken ∧
      engine.generator.candidate = SymbolGenerator.digestCandidate 0 3 ∧
      (engine.issuances twoIssuances).length = 2 ∧
      (GenesisState.oneToken.tokens.map Token.symbol ++
        (engine.issuances twoIssuances).map Issued.symbol).Nodup := by
  have loaded : ((new ⟨.proto, {}⟩ (.digest 0 3)).initGenesis .oneToken).2.Loaded .oneToken :=
    .initGenesis (.new _ _) rfl (by decide +kernel)
  have digests :
      ((new ⟨.proto, {}⟩ (.digest 0 3)).initGenesis .oneToken).2.generator.candidate =
        SymbolGenerator.digestCandidate 0 3 := by
    rw [initGenesis_generator]
    rfl
  exact ⟨_, loaded, digests, by decide +kernel,
    (issued_symbols_unique loaded digests twoIssuances).1⟩

end Engine

end TokenLedger
