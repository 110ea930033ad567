/-
The SHA-256 digest. A message is padded to whole blocks of sixty-four bytes, and the blocks are
folded one after another into a state of eight words.
-/

import TokenLedger.Data.Bytes

namespace TokenLedger.Sha256

/-- The eight words that the blocks are folded into. -/
structure State where
  a : UInt32
  b : UInt32
  c : UInt32
  d : UInt32
  e : UInt32
  f : UInt32
  g : UInt32
  h : UInt32
  deriving DecidableEq, Repr

/-- The first thirty-two bits of the fractional parts of the square roots of the first eight
primes. -/
def initial : State :=
  ⟨0x6a09e667, 0xbb67ae85, 0x3c6ef372, 0xa54ff53a, 0x510e527f, 0x9b05688c, 0x1f83d9ab, 0x5be0cd19⟩

/-- The first thirty-two bits of the fractional parts of the cube roots of the first sixty-four
primes. -/
def roundConstants : List UInt32 :=
  [0x428a2f98, 0x71374491, 0xb5c0fbcf, 0xe9b5dba5, 0x3956c25b, 0x59f111f1, 0x923f82a4, 0xab1c5ed5,
    0xd807aa98, 0x12835b01, 0x243185be, 0x550c7dc3, 0x72be5d74, 0x80deb1fe, 0x9bdc06a7, 0xc19bf174,
    0xe49b69c1, 0xefbe4786, 0x0fc19dc6, 0x240ca1cc, 0x2de92c6f, 0x4a7484aa, 0x5cb0a9dc, 0x76f988da,
    0x983e5152, 0xa831c66d, 0xb00327c8, 0xbf597fc7, 0xc6e00bf3, 0xd5a79147, 0x06ca6351, 0x14292967,
    0x27b70a85, 0x2e1b2138, 0x4d2c6dfc, 0x53380d13, 0x650a7354, 0x766a0abb, 0x81c2c92e, 0x92722c85,
    0xa2bfe8a1, 0xa81a664b, 0xc24b8b70, 0xc76c51a3, 0xd192e819, 0xd6990624, 0xf40e3585, 0x106aa070,
    0x19a4c116, 0x1e376c08, 0x2748774c, 0x34b0bcb5, 0x391c0cb3, 0x4ed8aa4a, 0x5b9cca4f, 0x682e6ff3,
    0x748f82ee, 0x78a5636f, 0x84c87814, 0x8cc70208, 0x90befffa, 0xa4506ceb, 0xbef9a3f7, 0xc67178f2]

/-- A word turned to the right. -/
def rotate (word count : UInt32) : UInt32 :=
  (word >>> count) ||| (word <<< (32 - count))

/-- The words of a list of bytes, four bytes a word, the most significant byte first. -/
def words : Bytes → List UInt32
  | a :: b :: c :: d :: rest =>
    ((a.toUInt32 <<< 24) ||| (b.toUInt32 <<< 16) ||| (c.toUInt32 <<< 8) ||| d.toUInt32) ::
      words rest
  | _ => []

/-- Prepend as many words to the schedule, latest word first, as asked for. -/
def extend : Nat → List UInt32 → List UInt32
  | 0, latest => latest
  | count + 1, latest =>
    let early := latest.getD 14 0
    let late := latest.getD 1 0
    let earlyMix := rotate early 7 ^^^ rotate early 18 ^^^ (early >>> 3)
    let lateMix := rotate late 17 ^^^ rotate late 19 ^^^ (late >>> 10)
    extend count ((latest.getD 15 0 + earlyMix + latest.getD 6 0 + lateMix) :: latest)

/-- The sixty-four words that the rounds of a block use. -/
def schedule (block : Bytes) : List UInt32 :=
  (extend 48 (words block).reverse).reverse

/-- One round. -/
def round (state : State) (constant word : UInt32) : State :=
  let mixE := rotate state.e 6 ^^^ rotate state.e 11 ^^^ rotate state.e 25
  let choice := (state.e &&& state.f) ^^^ (~~~state.e &&& state.g)
  let first := state.h + mixE + choice + constant + word
  let mixA := rotate state.a 2 ^^^ rotate state.a 13 ^^^ rotate state.a 22
  let majority := (state.a &&& state.b) ^^^ (state.a &&& state.c) ^^^ (state.b &&& state.c)
  ⟨first + mixA + majority, state.a, state.b, state.c, state.d + first, state.e, state.f, state.g⟩

/-- Fold one block into the state. -/
def compress (state : State) (block : Bytes) : State :=
  let mixed := (roundConstants.zip (schedule block)).foldl
    (fun state step => round state step.1 step.2) state
  ⟨state.a + mixed.a, state.b + mixed.b, state.c + mixed.c, state.d + mixed.d,
    state.e + mixed.e, state.f + mixed.f, state.g + mixed.g, state.h + mixed.h⟩

/-- The message, a one bit, zeros up to eight bytes before the end of a block, and the length of the
message in bits. -/
def pad (message : Bytes) : Bytes :=
  let zeros := (55 + 64 - message.length % 64) % 64
  message ++ 0x80 :: List.replicate zeros 0 ++ bigEndian (UInt64.ofNat (8 * message.length))

/-- Fold the given number of blocks into the state. -/
def absorb : Nat → State → Bytes → State
  | 0, state, _ => state
  | count + 1, state, message => absorb count (compress state (message.take 64)) (message.drop 64)

/-- The thirty-two bytes of the digest. -/
def digest (message : Bytes) : Bytes :=
  let padded := pad message
  let state := absorb (padded.length / 64) initial padded
  [state.a, state.b, state.c, state.d, state.e, state.f, state.g, state.h].flatMap
    fun word => (littleEndian 4 word.toNat).reverse

end TokenLedger.Sha256

namespace TokenLedger

/-- The SHA-256 digest in lower-case hexadecimal. -/
def sha256Hex (message : Bytes) : String :=
  hex (Sha256.digest message)

end TokenLedger
