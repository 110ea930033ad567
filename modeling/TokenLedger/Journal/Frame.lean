/-
Frames. A request log is a row of frames, each the length of an envelope in four bytes and then the
envelope itself; the envelopes are numbered from one without a gap. A log that is anything else is
corrupt from the first frame on that is not as it should be. A length is read byte by byte if need
be, as a single read may give fewer bytes than it is asked for.
-/

import TokenLedger.Request.Message
import TokenLedger.Text.Outside

namespace TokenLedger

/-- What is wrong with a frame. -/
inductive Corruption where
  /-- The log ends within a length. -/
  | shortLength (count : Nat)
  /-- No frame has this length. -/
  | badLength (length : Nat)
  /-- The log ends within an envelope. -/
  | shortFrame
  /-- The bytes are no envelope. -/
  | notAnEnvelope
  | outOfOrder (actual expected : UInt64)
  deriving DecidableEq, Repr

def Corruption.message : Corruption → String
  | .shortLength count => "truncated length prefix (" ++ count.repr ++ " of 4 bytes)"
  | .badLength length => "invalid frame length " ++ length.repr
  | .shortFrame => "truncated frame: " ++ Outside.io.marker
  | .notAnEnvelope => "protobuf decode error: " ++ Outside.proto.marker
  | .outOfOrder actual expected =>
    "sequence " ++ actual.toNat.repr ++ " where " ++ expected.toNat.repr ++ " was expected"

namespace Frame

/-- The number of bytes that hold a length. -/
def lengthBytes : Nat := 4

/-- The greatest length of an envelope that is read, 16 MiB. -/
def greatestLength : Nat := 16 * 1024 * 1024

/-- The frame of an envelope. -/
def write (envelope : LoggedEnvelope) : Bytes :=
  let bytes := envelope.encode
  littleEndian lengthBytes bytes.length ++ bytes

/-- Fill the room for some bytes from the front of a file. The single reads give at most as many
bytes as listed, and one that is interrupted gives none; the one after them gives all that are
missing. There are fewer bytes only where the file ends. -/
def fill : List Nat → Nat → Bytes → Bytes
  | [], missing, bytes => bytes.take missing
  | size :: sizes, missing, bytes =>
    if missing = 0 ∨ bytes = [] then []
    else
      let chunk := bytes.take (min size missing)
      chunk ++ fill sizes (missing - chunk.length) (bytes.drop chunk.length)

/-- How many bytes at most the single reads give that a length is read with, by the offset of its
frame. -/
abbrev Reads := Nat → List Nat

/-- How much of a file a reader takes up at a time, 8 KiB. -/
def bufferSize : Nat := 8 * 1024

/-- The reads of a reader that gives out what it has taken up before it takes up more. -/
def buffered : Reads := fun offset => [bufferSize - offset % bufferSize]

/-- The length at the front of a log. -/
def readLength (sizes : List Nat) (bytes : Bytes) : Except Corruption Nat :=
  let lengthPart := fill sizes lengthBytes bytes
  if lengthPart.length < lengthBytes then .error (.shortLength lengthPart.length)
  else
    let length := ofLittleEndian lengthPart
    if length = 0 ∨ greatestLength < length then .error (.badLength length) else .ok length

/-- Read the frame at the front of a log that has the given last number before it: the envelope, the
size of its frame, and what follows. -/
def read (sizes : List Nat) (last : UInt64) (bytes : Bytes) :
    Except Corruption (LoggedEnvelope × Nat × Bytes) := do
  let length ← readLength sizes bytes
  let rest := bytes.drop lengthBytes
  let content := rest.take length
  if content.length < length then .error .shortFrame
  else
    match LoggedEnvelope.decode? content with
    | none => .error .notAnEnvelope
    | some envelope =>
      if envelope.sequence = last + 1 then .ok (envelope, lengthBytes + length, rest.drop length)
      else .error (.outOfOrder envelope.sequence (last + 1))

/-- Read frames up to the end of a log, from an offset on. The bound is on their number, for which
the number of bytes is enough. -/
def readAllFrom (reads : Reads) :
    Nat → Nat → UInt64 → Bytes → Except (Nat × Corruption) (List LoggedEnvelope)
  | 0, _, _, _ => .ok []
  | bound + 1, offset, last, bytes =>
    if bytes = [] then .ok []
    else
      match read (reads offset) last bytes with
      | .error corruption => .error (offset, corruption)
      | .ok (envelope, size, rest) => do
        let envelopes ← readAllFrom reads bound (offset + size) envelope.sequence rest
        return envelope :: envelopes

/-- Read all frames of a log with the given reads, or find where the first corrupt frame starts. -/
def readAllWith (reads : Reads) (bytes : Bytes) :
    Except (Nat × Corruption) (List LoggedEnvelope) :=
  readAllFrom reads bytes.length 0 0 bytes

/-- Read all frames of a log through a buffer. -/
def readAll (bytes : Bytes) : Except (Nat × Corruption) (List LoggedEnvelope) :=
  readAllWith buffered bytes

end Frame

end TokenLedger
