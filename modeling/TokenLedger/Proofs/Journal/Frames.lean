/-
This file proves that the frames of a log are read back. A length is read as the first four bytes
of its frame, whatever the single reads give of them. A frame is read back when its length is one
that the reader takes, which the writer does not ask for: the writer takes every length that fits
into four bytes, the reader none of more than 16 MiB. By induction on the envelopes, a log whose
envelopes are numbered in order is read back up to the first frame that is too long, and it is
corrupt from there on.
-/

import Mathlib
import TokenLedger.Journal.Frame
import TokenLedger.Proofs.Data.Ordering
import TokenLedger.Proofs.Data.Results
import TokenLedger.Proofs.Request.Envelopes

namespace TokenLedger

namespace Frame

/-- The frame of some content. -/
def pack (content : Bytes) : Bytes :=
  littleEndian lengthBytes content.length ++ content

/-- The frames of contents, one after the other. -/
def packAll (contents : List Bytes) : Bytes :=
  contents.flatMap pack

/-- The frames of envelopes, one after the other. -/
def writeAll (envelopes : List LoggedEnvelope) : Bytes :=
  envelopes.flatMap write

/-- A frame of this content has a length that is read, and is read as this envelope. -/
structure Holds (content : Bytes) (envelope : LoggedEnvelope) : Prop where
  positive : 0 < content.length
  within : content.length ≤ greatestLength
  decoded : LoggedEnvelope.decode? content = some envelope

/-- An envelope whose frame has a length that is read. -/
structure Readable (envelope : LoggedEnvelope) : Prop where
  positive : 0 < envelope.encode.length
  within : envelope.encode.length ≤ greatestLength

instance (envelope : LoggedEnvelope) : Decidable (Readable envelope) :=
  decidable_of_iff (0 < envelope.encode.length ∧ envelope.encode.length ≤ greatestLength)
    ⟨fun ⟨positive, within⟩ => ⟨positive, within⟩, fun readable => ⟨readable.1, readable.2⟩⟩

variable {sizes : List Nat} {reads : Reads} {content : Bytes} {contents : List Bytes}
  {envelope : LoggedEnvelope} {envelopes : List LoggedEnvelope} {last : UInt64}

theorem Readable.holds (readable : Readable envelope) : Holds envelope.encode envelope :=
  ⟨readable.positive, readable.within, LoggedEnvelope.decode?_encode envelope⟩

theorem packAll_append (earlier later : List Bytes) :
    packAll (earlier ++ later) = packAll earlier ++ packAll later :=
  List.flatMap_append

theorem packAll_cons (content : Bytes) (contents : List Bytes) :
    packAll (content :: contents) = pack content ++ packAll contents :=
  List.flatMap_cons

theorem writeAll_eq_packAll (envelopes : List LoggedEnvelope) :
    writeAll envelopes = packAll (envelopes.map LoggedEnvelope.encode) :=
  (List.flatMap_map LoggedEnvelope.encode pack envelopes).symm

theorem writeAll_append (earlier later : List LoggedEnvelope) :
    writeAll (earlier ++ later) = writeAll earlier ++ writeAll later :=
  List.flatMap_append

theorem writeAll_singleton (envelope : LoggedEnvelope) : writeAll [envelope] = write envelope :=
  List.flatMap_singleton write envelope

theorem length_pack (content : Bytes) : (pack content).length = lengthBytes + content.length := by
  rw [pack, List.length_append, length_littleEndian]

theorem pack_append_ne_nil (content rest : Bytes) : pack content ++ rest ≠ [] := by
  intro nothing
  have empty := congrArg List.length nothing
  rw [List.length_append, length_pack, lengthBytes, List.length_nil] at empty
  omega

theorem length_le_length_packAll (contents : List Bytes) :
    contents.length ≤ (packAll contents).length := by
  induction contents with
  | nil => exact Nat.zero_le _
  | cons content contents inductionHypothesis =>
    rw [packAll_cons, List.length_append, length_pack, List.length_cons, lengthBytes]
    omega

/-! ### Single reads -/

/-- What is missing after a read is what follows the bytes that it gave. -/
theorem take_append_rest {count missing : Nat} (within : count ≤ missing) (bytes : Bytes) :
    bytes.take count ++ (bytes.drop (bytes.take count).length).take
        (missing - (bytes.take count).length) = bytes.take missing := by
  rcases le_total count bytes.length with enough | short
  · rw [List.length_take, Nat.min_eq_left enough, ← List.take_add, Nat.add_sub_cancel' within]
  · rw [List.take_of_length_le short, List.drop_length, List.take_nil, List.append_nil,
      List.take_of_length_le (short.trans within)]

/-- By induction on the single reads, the room is filled with the first bytes, however few of them
each read gives. -/
theorem fill_eq (sizes : List Nat) (missing : Nat) (bytes : Bytes) :
    fill sizes missing bytes = bytes.take missing := by
  induction sizes generalizing missing bytes with
  | nil => rfl
  | cons size sizes inductionHypothesis =>
    rw [fill]
    split
    next full =>
      rcases full with rfl | rfl
      · exact List.take_zero.symm
      · exact List.take_nil.symm
    next =>
      dsimp only
      rw [inductionHypothesis, take_append_rest (Nat.min_le_right size missing)]

/-- A length does not depend on the reads that it is read with. -/
theorem readLength_congr (sizes others : List Nat) (bytes : Bytes) :
    readLength sizes bytes = readLength others bytes := by
  rw [readLength, readLength, fill_eq, fill_eq]

theorem readAllFrom_congr (reads others : Reads) (bound offset : Nat) (last : UInt64)
    (bytes : Bytes) :
    readAllFrom reads bound offset last bytes = readAllFrom others bound offset last bytes := by
  induction bound generalizing offset last bytes with
  | zero => rfl
  | succ bound inductionHypothesis =>
    rw [readAllFrom, readAllFrom, read, read, readLength_congr (reads offset) (others offset)]
    simp only [inductionHypothesis]

/-- A log is read in the same way whatever the single reads give. -/
theorem readAllWith_eq (reads : Reads) (bytes : Bytes) : readAllWith reads bytes = readAll bytes :=
  readAllFrom_congr reads buffered bytes.length 0 0 bytes

/-! ### One frame -/

/-- The length in front of a frame is read back, and then looked at. -/
theorem readLength_append {length : Nat} (fits : length < UInt32.size) (rest : Bytes) :
    readLength sizes (littleEndian lengthBytes length ++ rest) =
      if length = 0 ∨ greatestLength < length then .error (.badLength length) else .ok length := by
  have size : (littleEndian lengthBytes length).length = lengthBytes :=
    length_littleEndian lengthBytes length
  have front : (littleEndian lengthBytes length ++ rest).take lengthBytes =
      littleEndian lengthBytes length := List.take_left' size
  have value : ofLittleEndian (littleEndian lengthBytes length) = length :=
    ofLittleEndian_littleEndian lengthBytes _ fits
  rw [readLength, fill_eq, front]
  simp only [size, value, lt_irrefl, if_false]

theorem Holds.fits (held : Holds content envelope) : content.length < UInt32.size :=
  lt_of_le_of_lt held.within (by decide)

/-- The length of a frame that is read is found whatever follows it. -/
theorem Holds.readLength_eq (held : Holds content envelope) (rest : Bytes) :
    readLength sizes (littleEndian lengthBytes content.length ++ rest) = .ok content.length := by
  have inBounds : ¬ (content.length = 0 ∨ greatestLength < content.length) := by
    have positive := held.positive
    have within := held.within
    omega
  rw [readLength_append held.fits, if_neg inBounds]

/-- A frame is read if its envelope has the next number. -/
theorem read_pack (held : Holds content envelope) (next : envelope.sequence = last + 1)
    (rest : Bytes) :
    read sizes last (pack content ++ rest) = .ok (envelope, (pack content).length, rest) := by
  have size : (littleEndian lengthBytes content.length).length = lengthBytes :=
    length_littleEndian lengthBytes content.length
  have following : (littleEndian lengthBytes content.length ++ (content ++ rest)).drop lengthBytes =
      content ++ rest := List.drop_left' size
  have whole : (content ++ rest).take content.length = content := List.take_left' rfl
  have remaining : (content ++ rest).drop content.length = rest := List.drop_left' rfl
  rw [length_pack, pack, List.append_assoc, read, held.readLength_eq]
  simp only [bind, Except.bind, following, whole, lt_irrefl, if_false, held.decoded, next, if_true,
    remaining]

/-- A frame that is too long is not read. -/
theorem read_write_tooLong (tooLong : greatestLength < envelope.encode.length)
    (fits : envelope.encode.length < UInt32.size) (last : UInt64) (rest : Bytes) :
    read sizes last (write envelope ++ rest) = .error (.badLength envelope.encode.length) := by
  rw [write, List.append_assoc, read, readLength_append fits, if_pos (.inr tooLong)]
  rfl

/-! ### A whole log -/

/-- By induction on the frames, those in order are read before what follows them. -/
theorem readAllFrom_packAll (held : List.Forall₂ Holds contents envelopes)
    (numbered : Numbered LoggedEnvelope.sequence last envelopes) (bound offset : Nat)
    (rest : Bytes) :
    readAllFrom reads (contents.length + bound) offset last (packAll contents ++ rest) =
      (readAllFrom reads bound (offset + (packAll contents).length)
        (last + UInt64.ofNat contents.length) rest).map (envelopes ++ ·) := by
  induction held generalizing last offset with
  | nil =>
    have start : last + UInt64.ofNat 0 = last := UInt64.add_zero last
    simp only [List.length_nil, Nat.zero_add, packAll, List.flatMap_nil, List.nil_append,
      Nat.add_zero, start]
    cases readAllFrom reads bound offset last rest <;> rfl
  | @cons content envelope contents envelopes first following inductionHypothesis =>
    obtain ⟨next, numbered⟩ := numbered
    have bounds : (content :: contents).length + bound = contents.length + bound + 1 := by
      rw [List.length_cons]
      omega
    have offsets : offset + (pack content).length + (packAll contents).length =
        offset + (packAll (content :: contents)).length := by
      rw [packAll_cons, List.length_append, Nat.add_assoc]
    rw [← offsets, packAll_cons, List.append_assoc, bounds, readAllFrom,
      if_neg (pack_append_ne_nil content _), read_pack first next]
    dsimp only
    rw [inductionHypothesis numbered, next, add_ofNat_succ, List.length_cons]
    cases readAllFrom reads bound (offset + (pack content).length + (packAll contents).length)
      (last + UInt64.ofNat (contents.length + 1)) rest <;> rfl

/-- The bound on the number of frames is never reached, as each frame has bytes. -/
theorem readAll_packAll_append (held : List.Forall₂ Holds contents envelopes)
    (numbered : Numbered LoggedEnvelope.sequence 0 envelopes) (rest : Bytes) :
    ∃ bound, rest.length ≤ bound ∧
      readAll (packAll contents ++ rest) =
        (readAllFrom buffered bound (packAll contents).length (UInt64.ofNat contents.length)
          rest).map (envelopes ++ ·) := by
  obtain ⟨bound, enough⟩ := Nat.exists_eq_add_of_le (length_le_length_packAll contents)
  refine ⟨bound + rest.length, Nat.le_add_left _ _, ?_⟩
  have length : (packAll contents ++ rest).length = contents.length + (bound + rest.length) := by
    rw [List.length_append, enough, Nat.add_assoc]
  rw [readAll, readAllWith, length, readAllFrom_packAll held numbered, Nat.zero_add,
    UInt64.zero_add]

/-- There is nothing to be read at the end of a log. -/
theorem readAllFrom_nil (bound offset : Nat) (last : UInt64) :
    readAllFrom reads bound offset last [] = .ok [] := by
  cases bound <;> rfl

/-- A log of frames that are read, and are numbered in order, is read as a whole. -/
theorem readAll_packAll (held : List.Forall₂ Holds contents envelopes)
    (numbered : Numbered LoggedEnvelope.sequence 0 envelopes) :
    readAll (packAll contents) = .ok envelopes := by
  obtain ⟨bound, _, read⟩ := readAll_packAll_append held numbered []
  rw [List.append_nil, readAllFrom_nil] at read
  rw [read]
  simp only [Except.map, List.append_nil]

/-- Where a frame is not read, the log is corrupt. -/
theorem readAll_packAll_error (held : List.Forall₂ Holds contents envelopes)
    (numbered : Numbered LoggedEnvelope.sequence 0 envelopes) {rest : Bytes} (more : rest ≠ [])
    {corruption : Corruption}
    (refused : ∀ sizes, read sizes (UInt64.ofNat contents.length) rest = .error corruption) :
    readAll (packAll contents ++ rest) = .error ((packAll contents).length, corruption) := by
  obtain ⟨bound, enough, read⟩ := readAll_packAll_append held numbered rest
  obtain ⟨bound, rfl⟩ : ∃ fewer, bound = fewer + 1 :=
    Nat.exists_eq_succ_of_ne_zero
      (Nat.ne_zero_of_lt (lt_of_lt_of_le (List.length_pos_iff.mpr more) enough))
  rw [read, readAllFrom, if_neg more, refused]
  rfl

/-- Only a log without bytes has no frames. -/
theorem eq_nil_of_readAll {bytes : Bytes} (read : readAll bytes = .ok []) : bytes = [] := by
  cases bytes with
  | nil => rfl
  | cons byte rest =>
    rw [readAll, readAllWith, List.length_cons, readAllFrom,
      if_neg (List.cons_ne_nil byte rest)] at read
    split at read
    next => cases read
    next =>
      obtain ⟨others, _, listed⟩ := bind_eq_ok read
      cases listed

/-! ### Logs that have been written -/

theorem holds_map_encode (readable : ∀ envelope ∈ envelopes, Readable envelope) :
    List.Forall₂ Holds (envelopes.map LoggedEnvelope.encode) envelopes :=
  List.forall₂_map_left_iff.mpr
    (List.forall₂_same.mpr fun envelope member => (readable envelope member).holds)

/-- A log of frames that are readable is read back. -/
theorem readAll_writeAll (readable : ∀ envelope ∈ envelopes, Readable envelope)
    (numbered : Numbered LoggedEnvelope.sequence 0 envelopes) :
    readAll (writeAll envelopes) = .ok envelopes := by
  rw [writeAll_eq_packAll]
  exact readAll_packAll (holds_map_encode readable) numbered

/-- A log is corrupt from the first frame on that is too long. -/
theorem readAll_writeAll_tooLong {later : List LoggedEnvelope}
    (readable : ∀ envelope ∈ envelopes, Readable envelope)
    (numbered : Numbered LoggedEnvelope.sequence 0 envelopes)
    (tooLong : greatestLength < envelope.encode.length)
    (fits : envelope.encode.length < UInt32.size) :
    readAll (writeAll (envelopes ++ envelope :: later)) =
      .error ((writeAll envelopes).length, .badLength envelope.encode.length) := by
  have split : writeAll (envelopes ++ envelope :: later) =
      packAll (envelopes.map LoggedEnvelope.encode) ++ (write envelope ++ writeAll later) := by
    rw [writeAll_append, writeAll_eq_packAll envelopes, writeAll, writeAll, List.flatMap_cons]
  rw [split, writeAll_eq_packAll envelopes]
  exact readAll_packAll_error (holds_map_encode readable) numbered
    (pack_append_ne_nil envelope.encode (writeAll later))
    (fun _ => read_write_tooLong tooLong fits _ (writeAll later))

end Frame

end TokenLedger
