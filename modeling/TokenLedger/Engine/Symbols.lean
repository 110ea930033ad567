/-
Symbols for new tokens. A generator proposes symbols for a requested one, each from the number of
proposals made so far, so that every replica that delivers the same requests finds the same symbols.
An issuance takes the first proposal that is not taken.
-/

import TokenLedger.Digest.Sha256

namespace TokenLedger

/-- A source of symbols. -/
structure SymbolGenerator where
  /-- The proposal with the given number for a requested symbol. -/
  candidate : UInt64 → String → String
  /-- How many proposals have been made. -/
  nonce : UInt64

namespace SymbolGenerator

/-- The next proposal for a requested symbol. -/
def generate (generator : SymbolGenerator) (requested : String) : String × SymbolGenerator :=
  let nonce := generator.nonce + 1
  (generator.candidate nonce requested, { generator with nonce })

/-- Go on from a number of proposals. -/
def resume (generator : SymbolGenerator) (nonce : UInt64) : SymbolGenerator :=
  { generator with nonce }

/-- How many digits of a digest are used: at least one, and no more than there are. -/
def usedDigits (suffixLength : UInt64) : Nat :=
  min 64 (max 1 suffixLength.toNat)

/-- The requested symbol, a dash, and the first upper-case hexadecimal digits of the digest of the
seed, the requested symbol and the number of the proposal. -/
def digestCandidate (seed suffixLength nonce : UInt64) (requested : String) : String :=
  let digest := Sha256.digest (bigEndian seed ++ utf8 requested ++ bigEndian nonce)
  requested ++ "-" ++ String.ofList ((hexDigits 'A' digest).take (usedDigits suffixLength))

/-- The generator that draws on digests. -/
def digest (seed suffixLength : UInt64) : SymbolGenerator :=
  ⟨digestCandidate seed suffixLength, 0⟩

/-- The generator that proposes the symbols of a list in turn, and then the empty symbol. -/
def ofList (symbols : List String) : SymbolGenerator :=
  ⟨fun nonce _ => symbols.getD (nonce.toNat - 1) "", 0⟩

/-- The first of the next proposals, as many as given, that is neither empty nor taken. -/
def firstFree? (taken : String → Bool) (requested : String) :
    Nat → SymbolGenerator → Option String × SymbolGenerator
  | 0, generator => (none, generator)
  | attempts + 1, generator =>
    let (symbol, generator) := generator.generate requested
    if symbol ≠ "" ∧ taken symbol = false then (some symbol, generator)
    else firstFree? taken requested attempts generator

end SymbolGenerator

end TokenLedger
