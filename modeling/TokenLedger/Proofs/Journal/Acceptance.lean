/-
This file says which bytes are a log. Reading accepts frames that are numbered from one on, and
nothing else: what is accepted comes apart into frames in just one way, because each starts with its
length. A log that has been cut off is therefore read up to the frame that is cut, and of the rows
that can be made from the frames of a log only its beginnings are logs, because a frame has its
number inside.
-/

import Mathlib
import TokenLedger.Proofs.Journal.Frames

namespace TokenLedger.Frame

variable {sizes : List Nat} {reads : Reads} {content : Bytes} {contents : List Bytes}
  {envelope : LoggedEnvelope} {envelopes : List LoggedEnvelope} {last : UInt64}
  {bytes rest : Bytes}

/-! ### One frame -/

/-- Bytes whose front gives a length that is read start with that length. -/
theorem eq_append_of_readLength {length : Nat} (measured : readLength sizes bytes = .ok length) :
    (0 < length ∧ length ≤ greatestLength) ∧
      bytes = littleEndian lengthBytes length ++ bytes.drop lengthBytes := by
  rw [readLength, fill_eq, ite_error_eq_ok_iff, ite_error_eq_ok_iff] at measured
  obtain ⟨enough, inBounds, value⟩ := measured
  have size : (bytes.take lengthBytes).length = lengthBytes :=
    le_antisymm (List.length_take_le _ _) (Nat.not_lt.mp enough)
  have value : ofLittleEndian (bytes.take lengthBytes) = length := Except.ok.inj value
  rw [value] at inBounds
  refine ⟨by omega, ?_⟩
  have written := littleEndian_ofLittleEndian (bytes.take lengthBytes)
  rw [size, value] at written
  rw [written, List.take_append_drop]

/-- What is read from the front of a log is a frame there. -/
theorem eq_pack_append_of_read {size : Nat}
    (run : read sizes last bytes = .ok (envelope, size, rest)) :
    ∃ content, Holds content envelope ∧ envelope.sequence = last + 1 ∧
      bytes = pack content ++ rest := by
  obtain ⟨length, measured, run⟩ := bind_eq_ok run
  obtain ⟨⟨positive, within⟩, split⟩ := eq_append_of_readLength measured
  obtain ⟨whole, run⟩ := ite_error_eq_ok_iff.mp run
  have exactly : ((bytes.drop lengthBytes).take length).length = length :=
    le_antisymm (List.length_take_le _ _) (Nat.not_lt.mp whole)
  split at run
  next => cases run
  next found decoded =>
    split at run
    next numbered =>
      obtain ⟨rfl, _, rfl⟩ : found = envelope ∧ lengthBytes + length = size ∧
          (bytes.drop lengthBytes).drop length = rest := by
        simpa using run
      refine ⟨(bytes.drop lengthBytes).take length, ⟨?_, ?_, decoded⟩, numbered, ?_⟩
      · rw [exactly]
        exact positive
      · rw [exactly]
        exact within
      · rw [pack, exactly, List.append_assoc, List.take_append_drop]
        exact split
    next => cases run

/-- A frame that is cut off is not read. -/
theorem read_take_pack (held : Holds content envelope) {cut : Nat}
    (short : cut < (pack content).length) (last : UInt64) :
    read sizes last ((pack content).take cut) =
      .error (if cut < lengthBytes then .shortLength cut else .shortFrame) := by
  have size : (littleEndian lengthBytes content.length).length = lengthBytes :=
    length_littleEndian lengthBytes content.length
  rw [length_pack] at short
  by_cases within : cut < lengthBytes
  · have count : (((pack content).take cut).take lengthBytes).length = cut := by
      rw [List.take_take, Nat.min_eq_right within.le, List.length_take, length_pack]
      omega
    rw [if_pos within, read, readLength, fill_eq]
    simp only [count, if_pos within]
    rfl
  · have split : (pack content).take cut =
        littleEndian lengthBytes content.length ++ content.take (cut - lengthBytes) := by
      rw [pack, List.take_append, size, List.take_of_length_le (by omega)]
    have following : (littleEndian lengthBytes content.length ++
        content.take (cut - lengthBytes)).drop lengthBytes = content.take (cut - lengthBytes) :=
      List.drop_left' size
    have fewer : ((content.take (cut - lengthBytes)).take content.length).length <
        content.length := by
      rw [List.take_take, List.length_take]
      omega
    rw [if_neg within, split, read, held.readLength_eq]
    simp only [bind, Except.bind, following, if_pos fewer]

/-- A frame ends where its length says, so that bytes start with one frame at most. -/
theorem pack_append_inj {other following : Bytes} (fits : content.length < UInt32.size)
    (otherFits : other.length < UInt32.size)
    (same : pack content ++ rest = pack other ++ following) :
    content = other ∧ rest = following := by
  rw [pack, pack, List.append_assoc, List.append_assoc] at same
  obtain ⟨front, back⟩ := List.append_inj same
    ((length_littleEndian _ _).trans (length_littleEndian _ _).symm)
  have lengths : content.length = other.length := by
    rw [← ofLittleEndian_littleEndian lengthBytes _ fits, front,
      ofLittleEndian_littleEndian lengthBytes _ otherFits]
  exact List.append_inj back lengths

/-! ### The frames of a log -/

/-- The contents of the frames of a log, and the envelopes that they are read as: each has the
number of its place, counted from one, as a word. -/
structure Lists (contents : List Bytes) (envelopes : List LoggedEnvelope) : Prop where
  held : List.Forall₂ Holds contents envelopes
  numbered : ∀ (place : Nat) (inside : place < envelopes.length),
    envelopes[place].sequence = UInt64.ofNat (place + 1)

theorem Lists.following (lists : Lists contents envelopes) :
    Numbered LoggedEnvelope.sequence 0 envelopes :=
  numbered_iff_getElem.mpr fun place inside => by rw [lists.numbered place inside, UInt64.zero_add]

theorem Lists.take (lists : Lists contents envelopes) (kept : Nat) :
    Lists (contents.take kept) (envelopes.take kept) where
  held := List.forall₂_take kept lists.held
  numbered place inside := by
    rw [List.getElem_take]
    exact lists.numbered place _

theorem Lists.held_at (lists : Lists contents envelopes) {place : Nat}
    (inside : place < contents.length) :
    ∃ listed : place < envelopes.length, Holds contents[place] envelopes[place] := by
  have listed : place < envelopes.length := List.Forall₂.length_eq lists.held ▸ inside
  exact ⟨listed, lists.held.get inside listed⟩

theorem Lists.fits (lists : Lists contents envelopes) :
    ∀ content ∈ contents, content.length < UInt32.size := by
  intro content member
  obtain ⟨place, inside, rfl⟩ := List.getElem_of_mem member
  obtain ⟨_, held⟩ := lists.held_at inside
  exact held.fits

/-- A row of frames comes apart in one way. -/
theorem packAll_inj {others : List Bytes}
    (fits : ∀ content ∈ contents, content.length < UInt32.size)
    (othersFit : ∀ content ∈ others, content.length < UInt32.size)
    (same : packAll contents = packAll others) : contents = others := by
  induction contents generalizing others with
  | nil =>
    cases others with
    | nil => rfl
    | cons other others =>
      rw [packAll_cons] at same
      exact absurd same.symm (pack_append_ne_nil _ _)
  | cons content contents inductionHypothesis =>
    cases others with
    | nil =>
      rw [packAll_cons] at same
      exact absurd same (pack_append_ne_nil _ _)
    | cons other others =>
      obtain ⟨first, following⟩ := List.forall_mem_cons.mp fits
      obtain ⟨otherFirst, otherFollowing⟩ := List.forall_mem_cons.mp othersFit
      rw [packAll_cons, packAll_cons] at same
      obtain ⟨rfl, remaining⟩ := pack_append_inj first otherFirst same
      rw [inductionHypothesis following otherFollowing remaining]

/-- By induction on the bound, all that is read is frames, one after the other. -/
theorem eq_packAll_of_readAllFrom {bound offset : Nat} (enough : bytes.length ≤ bound)
    (run : readAllFrom reads bound offset last bytes = .ok envelopes) :
    ∃ contents, List.Forall₂ Holds contents envelopes ∧
      Numbered LoggedEnvelope.sequence last envelopes ∧ bytes = packAll contents := by
  induction bound generalizing offset last bytes envelopes with
  | zero =>
    obtain rfl : bytes = [] := List.length_eq_zero_iff.mp (Nat.le_zero.mp enough)
    cases run
    exact ⟨[], .nil, trivial, rfl⟩
  | succ bound inductionHypothesis =>
    rw [readAllFrom] at run
    split at run
    next nothing =>
      cases run
      exact ⟨[], .nil, trivial, nothing⟩
    next more =>
      split at run
      next => cases run
      next envelope size rest first =>
        obtain ⟨others, following, listed⟩ := bind_eq_ok run
        cases listed
        obtain ⟨content, held, next, rfl⟩ := eq_pack_append_of_read first
        have fewer : rest.length ≤ bound := by
          rw [List.length_append, length_pack, lengthBytes] at enough
          omega
        obtain ⟨contents, others, numbered, rfl⟩ := inductionHypothesis fewer following
        exact ⟨content :: contents, .cons held others, ⟨next, numbered⟩,
          (packAll_cons content contents).symm⟩

/-- What is accepted is the frames of a log, and nothing else. -/
theorem readAll_eq_ok_iff :
    readAll bytes = .ok envelopes ↔
      ∃ contents, Lists contents envelopes ∧ bytes = packAll contents := by
  constructor
  · intro run
    obtain ⟨contents, held, numbered, rfl⟩ := eq_packAll_of_readAllFrom le_rfl run
    refine ⟨contents, ⟨held, fun place inside => ?_⟩, rfl⟩
    rw [numbered_iff_getElem.mp numbered place inside, UInt64.zero_add]
  · rintro ⟨contents, lists, rfl⟩
    exact readAll_packAll lists.held lists.following

/-! ### Logs that are cut off -/

/-- Where a frame starts, or the end of the log. -/
def boundary (contents : List Bytes) (kept : Nat) : Nat :=
  (packAll (contents.take kept)).length

theorem boundary_cons_succ (content : Bytes) (contents : List Bytes) (kept : Nat) :
    boundary (content :: contents) (kept + 1) = (pack content).length + boundary contents kept := by
  rw [boundary, List.take_succ_cons, packAll_cons, List.length_append, boundary]

theorem boundary_succ {kept : Nat} (inside : kept < contents.length) :
    boundary contents (kept + 1) = boundary contents kept + (pack contents[kept]).length := by
  have one : packAll [contents[kept]] = pack contents[kept] := List.flatMap_singleton pack _
  rw [boundary, List.take_succ_eq_append_getElem inside, packAll_append, List.length_append, one,
    boundary]

/-- The bytes of a log up to some place in a frame. -/
theorem take_packAll {kept cut : Nat} (inside : kept < contents.length)
    (within : cut ≤ (pack contents[kept]).length) :
    (packAll contents).take (boundary contents kept + cut) =
      packAll (contents.take kept) ++ (pack contents[kept]).take cut := by
  have split : packAll contents = packAll (contents.take kept) ++
      (pack contents[kept] ++ packAll (contents.drop (kept + 1))) := by
    rw [← packAll_cons, ← packAll_append, List.getElem_cons_drop, List.take_append_drop]
  rw [split, boundary, List.take_length_add_append, List.take_append_of_le_length within]

theorem take_boundary (contents : List Bytes) (kept : Nat) :
    (packAll contents).take (boundary contents kept) = packAll (contents.take kept) := by
  have split : packAll contents = packAll (contents.take kept) ++ packAll (contents.drop kept) := by
    rw [← packAll_append, List.take_append_drop]
  rw [split]
  exact List.take_left' rfl

/-- By induction on the frames, any number of bytes of a log ends at the start of a frame or within
one. -/
theorem exists_boundary {count : Nat} (within : count ≤ (packAll contents).length) :
    (∃ kept ≤ contents.length, count = boundary contents kept) ∨
      ∃ kept < contents.length, boundary contents kept < count ∧
        count < boundary contents (kept + 1) := by
  induction contents generalizing count with
  | nil => exact .inl ⟨0, le_rfl, Nat.le_zero.mp within⟩
  | cons content contents inductionHypothesis =>
    have first : boundary (content :: contents) 1 = (pack content).length := by
      rw [boundary_cons_succ]
      rfl
    by_cases inFirst : count < (pack content).length
    · rcases Nat.eq_zero_or_pos count with rfl | positive
      · exact .inl ⟨0, Nat.zero_le _, rfl⟩
      · exact .inr ⟨0, Nat.zero_lt_succ _, positive, lt_of_lt_of_eq inFirst first.symm⟩
    · obtain ⟨more, rfl⟩ := Nat.exists_eq_add_of_le (Nat.not_lt.mp inFirst)
      rw [packAll_cons, List.length_append] at within
      rcases inductionHypothesis (Nat.le_of_add_le_add_left within) with
        ⟨kept, inside, rfl⟩ | ⟨kept, inside, above, below⟩
      · exact .inl ⟨kept + 1, Nat.succ_le_succ inside, (boundary_cons_succ _ _ _).symm⟩
      · refine .inr ⟨kept + 1, Nat.succ_lt_succ inside, ?_⟩
        rw [boundary_cons_succ, boundary_cons_succ]
        omega

/-- Up to the start of a frame, a log is a log. -/
theorem Lists.readAll_take (lists : Lists contents envelopes) (kept : Nat) :
    readAll ((packAll contents).take (boundary contents kept)) = .ok (envelopes.take kept) := by
  rw [take_boundary]
  exact readAll_packAll (lists.take kept).held (lists.take kept).following

/-- A log that is cut off within a frame is corrupt from the start of that frame on. -/
theorem Lists.readAll_cut (lists : Lists contents envelopes) {kept count : Nat}
    (inside : kept < contents.length) (above : boundary contents kept < count)
    (below : count < boundary contents (kept + 1)) :
    readAll ((packAll contents).take count) =
      .error (boundary contents kept,
        if count - boundary contents kept < lengthBytes then
          .shortLength (count - boundary contents kept)
        else .shortFrame) := by
  obtain ⟨cut, rfl⟩ := Nat.exists_eq_add_of_le above.le
  rw [boundary_succ inside] at below
  have short : cut < (pack contents[kept]).length := by omega
  have more : (pack contents[kept]).take cut ≠ [] := by
    refine List.length_pos_iff.mp ?_
    rw [List.length_take]
    omega
  obtain ⟨_, held⟩ := lists.held_at inside
  rw [take_packAll inside short.le, Nat.add_sub_cancel_left]
  exact readAll_packAll_error (lists.take kept).held (lists.take kept).following more
    (fun _ => read_take_pack held short _)

/-! ### Rows of the frames of a log -/

/-- The place of a frame is the number of its envelope. -/
theorem Lists.place_of_mem (lists : Lists contents envelopes) (member : content ∈ contents)
    (held : Holds content envelope) :
    ∃ place, ∃ inside : place < contents.length,
      contents[place] = content ∧ envelope.sequence = UInt64.ofNat (place + 1) := by
  obtain ⟨place, inside, rfl⟩ := List.getElem_of_mem member
  obtain ⟨listed, there⟩ := lists.held_at inside
  have same : envelope = envelopes[place] :=
    Option.some.inj (held.decoded.symm.trans there.decoded)
  exact ⟨place, inside, rfl, same ▸ lists.numbered place listed⟩

/-- As long as there are enough numbers, a row of frames of a log is a log only if it is a beginning
of that log. -/
theorem Lists.prefix_of_lists (lists : Lists contents envelopes)
    (enough : contents.length < UInt64.size) {picked : List Bytes} {found : List LoggedEnvelope}
    (members : ∀ content ∈ picked, content ∈ contents) (accepted : Lists picked found) :
    picked <+: contents := by
  -- The frame at a place of the row has the number of that place, and so has one of the log.
  have numbers (place : Nat) (inside : place < picked.length) :
      ∃ origin, ∃ there : origin < contents.length, contents[origin] = picked[place] ∧
        (place + 1) % UInt64.size = origin + 1 := by
    obtain ⟨listed, held⟩ := accepted.held_at inside
    obtain ⟨origin, there, same, number⟩ :=
      lists.place_of_mem (members _ (List.getElem_mem inside)) held
    refine ⟨origin, there, same, ?_⟩
    have numbered : found[place].sequence = UInt64.ofNat (origin + 1) := number
    rw [accepted.numbered place listed] at numbered
    have values := congrArg UInt64.toNat numbered
    rw [UInt64.toNat_ofNat', UInt64.toNat_ofNat'] at values
    rw [show UInt64.size = 2 ^ 64 from rfl] at enough ⊢
    rw [values]
    exact Nat.mod_eq_of_lt (by omega)
  have bounded : picked.length ≤ contents.length := by
    by_contra more
    obtain ⟨origin, there, _, same⟩ := numbers contents.length (Nat.not_le.mp more)
    rcases Nat.lt_or_eq_of_le (Nat.succ_le_of_lt enough) with below | last
    · rw [Nat.mod_eq_of_lt below] at same
      omega
    · rw [← Nat.succ_eq_add_one, last, Nat.mod_self] at same
      omega
  refine List.prefix_iff_getElem.mpr ⟨bounded, fun place inside => ?_⟩
  obtain ⟨origin, there, same, number⟩ := numbers place inside
  rw [Nat.mod_eq_of_lt (by omega)] at number
  obtain rfl : place = origin := Nat.succ.inj number
  exact same.symm

/-- A row of frames of a log is accepted just when it is a beginning of that log. -/
theorem Lists.accepted_iff_prefix (lists : Lists contents envelopes)
    (enough : contents.length < UInt64.size) {picked : List Bytes}
    (members : ∀ content ∈ picked, content ∈ contents) :
    (∃ found, readAll (packAll picked) = .ok found) ↔ picked <+: contents := by
  constructor
  · rintro ⟨found, accepted⟩
    obtain ⟨others, accepted, same⟩ := readAll_eq_ok_iff.mp accepted
    have fits : ∀ content ∈ picked, content.length < UInt32.size := fun content member =>
      lists.fits content (members content member)
    obtain rfl : picked = others := packAll_inj fits accepted.fits same
    exact lists.prefix_of_lists enough members accepted
  · intro isPrefix
    have taken := lists.readAll_take picked.length
    rw [take_boundary, ← List.prefix_iff_eq_take.mp isPrefix] at taken
    exact ⟨_, taken⟩

/-! ### Logs -/

/-- Whatever the single reads give, exactly the frames of a log are accepted. A log that is cut off
is accepted where a frame starts or the log ends, and otherwise corrupt from the start of the frame
that is cut. Of the rows of its frames, exactly its beginnings are accepted, as long as there is a
number for each of its frames. -/
theorem readAll_accepts_exactly :
    (∀ reads bytes, readAllWith reads bytes = readAll bytes) ∧
    (∀ bytes envelopes, readAll bytes = .ok envelopes ↔
      ∃ contents, Lists contents envelopes ∧ bytes = packAll contents) ∧
    ∀ contents envelopes, Lists contents envelopes →
      (∀ kept ≤ contents.length,
        readAll ((packAll contents).take (boundary contents kept)) = .ok (envelopes.take kept)) ∧
      (∀ count ≤ (packAll contents).length,
        (∀ kept ≤ contents.length, count ≠ boundary contents kept) →
          ∃ kept < contents.length,
            boundary contents kept < count ∧ count < boundary contents (kept + 1) ∧
            readAll ((packAll contents).take count) =
              .error (boundary contents kept,
                if count - boundary contents kept < lengthBytes then
                  .shortLength (count - boundary contents kept)
                else .shortFrame)) ∧
      (contents.length < UInt64.size → ∀ picked : List Bytes,
        (∀ content ∈ picked, content ∈ contents) →
          ((∃ found, readAll (packAll picked) = .ok found) ↔ picked <+: contents)) := by
  refine ⟨readAllWith_eq, fun _ _ => readAll_eq_ok_iff,
    fun contents envelopes lists => ⟨?_, ?_, ?_⟩⟩
  · intro kept _
    exact lists.readAll_take kept
  · intro count within between
    rcases exists_boundary within with ⟨kept, inside, atBoundary⟩ | ⟨kept, inside, above, below⟩
    · exact absurd atBoundary (between kept inside)
    · exact ⟨kept, inside, above, below, lists.readAll_cut inside above below⟩
  · intro enough picked members
    exact lists.accepted_iff_prefix enough members

/-- Three frames, with nothing but the number in each. Their lengths may come one byte first, after
an interruption two more, and then the last. -/
def threeFrames : List Bytes := [[8, 1], [8, 2], [8, 3]]

def threeEnvelopes : List LoggedEnvelope := [⟨1, 0, none⟩, ⟨2, 0, none⟩, ⟨3, 0, none⟩]

theorem readAll_accepts_exactly_threeFrames :
    Lists threeFrames threeEnvelopes ∧
      readAll (packAll threeFrames) = .ok threeEnvelopes ∧
      readAllWith (fun _ => [1, 0, 2]) (packAll threeFrames) = .ok threeEnvelopes ∧
      readAll ((packAll threeFrames).take 12) = .ok [⟨1, 0, none⟩, ⟨2, 0, none⟩] ∧
      (∀ kept ≤ threeFrames.length, 14 ≠ boundary threeFrames kept) ∧
      readAll ((packAll threeFrames).take 14) = .error (12, .shortLength 2) ∧
      (∀ content ∈ [[8, 1], [8, 3]], content ∈ threeFrames) ∧
      ¬ ∃ found, readAll (packAll [[8, 1], [8, 3]]) = .ok found := by
  have holds (number : UInt8) (envelope : LoggedEnvelope)
      (decoded : LoggedEnvelope.decode? [8, number] = some envelope) : Holds [8, number] envelope :=
    ⟨Nat.zero_lt_two, show 2 ≤ greatestLength by decide, decoded⟩
  have lists : Lists threeFrames threeEnvelopes :=
    ⟨.cons (holds 1 _ (by decide +kernel)) (.cons (holds 2 _ (by decide +kernel))
      (.cons (holds 3 _ (by decide +kernel)) .nil)), by decide⟩
  have between : ∀ kept ≤ threeFrames.length, 14 ≠ boundary threeFrames kept := by decide
  have members : ∀ content ∈ [[8, 1], [8, 3]], content ∈ threeFrames := by decide
  obtain ⟨anyReads, accepted, ofLists⟩ := readAll_accepts_exactly
  obtain ⟨whole, cut, rows⟩ := ofLists threeFrames threeEnvelopes lists
  have read : readAll (packAll threeFrames) = .ok threeEnvelopes :=
    (accepted _ _).mpr ⟨_, lists, rfl⟩
  refine ⟨lists, read, (anyReads _ _).trans read, whole 2 (by decide), between, ?_, members, ?_⟩
  · obtain ⟨kept, inside, above, below, corrupt⟩ := cut 14 (by decide) between
    have place : kept = 2 := by
      have only : ∀ kept < threeFrames.length, boundary threeFrames kept < 14 →
        14 < boundary threeFrames (kept + 1) → kept = 2 := by decide
      exact only kept inside above below
    subst place
    exact corrupt
  · intro found
    exact absurd ((rows (by decide) _ members).mp found) (by decide)

end TokenLedger.Frame
