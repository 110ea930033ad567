/-
This file proves what the readers of a log find after any number of envelopes have been appended to
it, whatever becomes of the single writes. An open log holds the frames of the envelopes that it has
accepted, numbered from one, and nothing else: a frame that does not arrive as a whole is cut off
again. A reader finds these envelopes as long as each has a length that is read. The log also
accepts envelopes that are too long for any reader, and cannot be read or opened after the first of
them.
-/

import Mathlib
import TokenLedger.Journal.Basic
import TokenLedger.Proofs.Disk.Files
import TokenLedger.Proofs.Journal.Frames

namespace TokenLedger

/-- A first envelope, which orders to freeze one unit of a symbol. -/
def LoggedEnvelope.freezeOne (symbol : String) : LoggedEnvelope :=
  ⟨1, TokenLedger.schemaVersion, some (some (.order .freeze ⟨"1", symbol, "o"⟩))⟩

namespace Journal

variable {journal : Journal} {disk opened : Disk} {tree : FileTree} {path : Path}
  {envelope : LoggedEnvelope} {envelopes : List LoggedEnvelope} {bytes : Bytes}

/-- Append envelopes one after the other, whatever becomes of each: the log, the disk, and the
envelopes that have been accepted. -/
def appendAll (journal : Journal) (disk : Disk) :
    List LoggedEnvelope → Journal × Disk × List LoggedEnvelope
  | [] => (journal, disk, [])
  | envelope :: rest =>
    match journal.append disk envelope with
    | (.ok (), journal, disk) =>
      let (journal, disk, accepted) := journal.appendAll disk rest
      (journal, disk, envelope :: accepted)
    | (.error _, journal, disk) => journal.appendAll disk rest

/-! ### Reading -/

theorem readAt_of_content? (held : tree.content? path = some bytes) :
    readAt tree path =
      (Frame.readAll bytes).mapError fun (offset, corruption) => .corrupt offset corruption := by
  rw [FileTree.content?] at held
  rw [readAt]
  split at held
  next there => rw [if_pos there, readFile, held]
  next absent =>
    obtain rfl := Option.some.inj held
    rw [if_neg absent]
    rfl

/-- A log is read from what is at the end of its path. -/
theorem readAt_of_node? {after : FileTree} (same : after.node? path = tree.node? path) :
    readAt after path = readAt tree path := by
  rw [readAt, readAt, readFile, readFile, FileTree.exists?, FileTree.exists?, FileTree.read?,
    FileTree.read?, same]

/-- A log that cannot be read is corrupt, or there is no file. -/
theorem readAt_failsOnlyWith (tree : FileTree) (path : Path) :
    FailsOnlyWith (fun failure => ∀ name, failure ≠ .sessionExists name) (readAt tree path) := by
  refine FailsOnlyWith.ite ?_ (.ok [])
  rw [readFile]
  cases tree.read? path with
  | none => exact .error nofun
  | some bytes => exact .mapError fun _ => nofun

/-- A log without frames has no bytes. -/
theorem content?_of_readAt_nil (read : readAt tree path = .ok []) :
    tree.content? path = some [] := by
  rw [readAt] at read
  split at read
  next there =>
    rw [readFile] at read
    split at read
    next => cases read
    next bytes found =>
      obtain rfl := Frame.eq_nil_of_readAll (mapError_eq_ok_iff.mp read)
      exact FileTree.content?_of_read? found
  next absent => exact FileTree.content?_of_absent (Bool.eq_false_of_not_eq_true absent)

/-- An open log holds the frames of envelopes that are numbered from one, and knows their number. -/
structure Holds (journal : Journal) (tree : FileTree) (envelopes : List LoggedEnvelope) : Prop where
  numbered : Numbered LoggedEnvelope.sequence 0 envelopes
  last : journal.lastSequence = UInt64.ofNat envelopes.length
  fits : ∀ envelope ∈ envelopes, envelope.encode.length < UInt32.size
  content : tree.content? journal.path = some (Frame.writeAll envelopes)

theorem Holds.load (holds : journal.Holds tree envelopes)
    (readable : ∀ envelope ∈ envelopes, Frame.Readable envelope) :
    journal.load tree = .ok envelopes := by
  rw [Journal.load, readAt_of_content? holds.content,
    Frame.readAll_writeAll readable holds.numbered]
  rfl

theorem Holds.load_tooLong {earlier rest : List LoggedEnvelope}
    (holds : journal.Holds tree (earlier ++ envelope :: rest))
    (readable : ∀ other ∈ earlier, Frame.Readable other)
    (tooLong : Frame.greatestLength < envelope.encode.length) :
    journal.load tree = .error
      (.corrupt (Frame.writeAll earlier).length (.badLength envelope.encode.length)) := by
  have fits := holds.fits envelope (List.mem_append_right _ List.mem_cons_self)
  rw [Journal.load, readAt_of_content? holds.content,
    Frame.readAll_writeAll_tooLong readable (numbered_append.mp holds.numbered).1 tooLong fits]
  rfl

/-- A log is read as what it holds, or not at all. -/
theorem Holds.load_cases (holds : journal.Holds tree envelopes)
    (positive : ∀ envelope ∈ envelopes, 0 < envelope.encode.length) :
    journal.load tree = .ok envelopes ∨ ∃ failure, journal.load tree = .error failure := by
  cases found : envelopes.find? fun envelope => !decide (Frame.Readable envelope) with
  | none =>
    refine .inl (holds.load fun envelope member => ?_)
    simpa using List.find?_eq_none.mp found envelope member
  | some envelope =>
    obtain ⟨unreadable, earlier, rest, rfl, readable⟩ := List.find?_eq_some_iff_append.mp found
    have tooLong : Frame.greatestLength < envelope.encode.length := by
      by_contra within
      have reads : Frame.Readable envelope :=
        ⟨positive envelope (List.mem_append_right _ List.mem_cons_self), not_lt.mp within⟩
      simp [reads] at unreadable
    exact .inr ⟨_, holds.load_tooLong (fun other member => by simpa using readable other member)
      tooLong⟩

/-- Opening a log whose folder is there reads it. -/
theorem openAt_of_folder (folder : disk.tree.makeFolders (Path.parent path) = (true, disk.tree)) :
    openAt disk path =
      ((readAt disk.tree path).map fun envelopes => ⟨path, lastOf envelopes⟩, disk) := by
  rw [openAt, Disk.makeFolders, folder]

theorem Holds.openAt (holds : journal.Holds disk.tree envelopes)
    (readable : ∀ envelope ∈ envelopes, Frame.Readable envelope)
    (folder : disk.tree.makeFolders (Path.parent journal.path) = (true, disk.tree)) :
    openAt disk journal.path = (.ok journal, disk) := by
  have read : readAt disk.tree journal.path = .ok envelopes := holds.load readable
  have last : lastOf envelopes = journal.lastSequence := by
    rw [lastOf, holds.numbered.last, holds.last, UInt64.zero_add]
  rw [openAt_of_folder folder, read]
  simp only [Except.map, last]

/-! ### Appending -/

/-- A frame arrives as a whole, or what the log held is all that there is. -/
theorem writeFrame_of_content? (held : disk.tree.content? path = some bytes)
    (envelope : LoggedEnvelope) :
    ∃ done after, writeFrame disk path envelope = (done, after) ∧
      FileTree.ChangedAt path disk.tree after.tree ∧
      after.tree.content? path = some (if done then bytes ++ Frame.write envelope else bytes) := by
  obtain ⟨done, between, arrived, appended, changed, content, whole⟩ :=
    Disk.append_of_content? held (Frame.write envelope)
  have before := FileTree.getD_read?_of_content? held
  cases done with
  | true =>
    refine ⟨true, between, ?_, changed, whole rfl ▸ content⟩
    rw [writeFrame, appended]
  | false =>
    obtain ⟨cut, restored⟩ := Disk.truncate_of_content? content
    refine ⟨false, between.truncate path bytes.length, ?_, changed.trans cut, restored⟩
    rw [writeFrame, appended, before]

/-- Where every write succeeds, a frame arrives if there is a place for its file. -/
theorem writeFrame_of_reliable (reliable : disk.fates = [])
    (held : disk.tree.content? path = some bytes) (envelope : LoggedEnvelope) :
    writeFrame disk path envelope =
      match disk.tree.filePlace? path with
      | none => (false, disk)
      | some place => (true, ⟨disk.tree.put place (bytes ++ Frame.write envelope), []⟩) := by
  rw [writeFrame, Disk.append, FileTree.getD_read?_of_content? held,
    Disk.writeAfter_of_reliable reliable]
  cases writable : disk.tree.filePlace? path with
  | some place => rfl
  | none =>
    dsimp only
    rw [Disk.truncate, FileTree.change, writable]

theorem writeFrame_of_content?_none (held : disk.tree.content? path = none)
    (envelope : LoggedEnvelope) : writeFrame disk path envelope = (false, disk) := by
  have nowhere := FileTree.filePlace?_of_content?_none held
  rw [writeFrame, Disk.append, Disk.writeAfter, nowhere]
  dsimp only
  rw [Disk.truncate, FileTree.change, nowhere]

/-- Where every write succeeds, every later write does. -/
theorem fates_writeFrame (reliable : disk.fates = []) (path : Path) (envelope : LoggedEnvelope) :
    (writeFrame disk path envelope).2.fates = [] := by
  cases held : disk.tree.content? path with
  | none =>
    rw [writeFrame_of_content?_none held]
    exact reliable
  | some bytes =>
    rw [writeFrame_of_reliable reliable held]
    cases disk.tree.filePlace? path with
    | none => exact reliable
    | some place => rfl

theorem fates_append (reliable : disk.fates = []) (journal : Journal) (envelope : LoggedEnvelope) :
    (journal.append disk envelope).2.2.fates = [] := by
  obtain ⟨opened, between, opening, _, _, still⟩ := disk.openEnd_cases journal.path
  obtain ⟨reliableStill, _⟩ := still reliable
  have written := fates_writeFrame reliableStill journal.path envelope
  rw [append, opening]
  split
  next => exact reliable
  next =>
    cases opened with
    | false => exact reliableStill
    | true =>
      dsimp only
      split
      next => exact reliableStill
      next =>
        split
        next _ after result =>
          rw [result] at written
          exact written
        next _ after result =>
          rw [result] at written
          exact written

/-- An envelope is refused, which leaves the log as it was, or its frame is put behind what there is
in the file. -/
theorem append_cases (journal : Journal) (disk : Disk) (envelope : LoggedEnvelope) :
    (∃ failure after, journal.append disk envelope = (.error failure, journal, after) ∧
        FileTree.ChangedAt journal.path disk.tree after.tree ∧
        after.tree.content? journal.path = disk.tree.content? journal.path) ∨
      ∃ bytes after,
        journal.append disk envelope =
          (.ok (), { journal with lastSequence := envelope.sequence }, after) ∧
        FileTree.ChangedAt journal.path disk.tree after.tree ∧
        envelope.sequence = journal.lastSequence + 1 ∧
        envelope.encode.length < UInt32.size ∧
        disk.tree.content? journal.path = some bytes ∧
        after.tree.content? journal.path = some (bytes ++ Frame.write envelope) := by
  rw [Journal.append]
  by_cases outOfOrder : envelope.sequence ≠ journal.lastSequence + 1
  · rw [if_pos outOfOrder]
    exact .inl ⟨_, _, rfl, .refl _ _, rfl⟩
  rw [if_neg outOfOrder]
  obtain ⟨opened, between, opening, changed, same, _⟩ := disk.openEnd_cases journal.path
  rw [opening]
  cases opened with
  | false => exact .inl ⟨_, _, rfl, changed, same⟩
  | true =>
    dsimp only
    by_cases tooLong : UInt32.size ≤ envelope.encode.length
    · rw [if_pos tooLong]
      exact .inl ⟨_, _, rfl, changed, same⟩
    rw [if_neg tooLong]
    cases held : disk.tree.content? journal.path with
    | none =>
      rw [writeFrame_of_content?_none (same.trans held)]
      exact .inl ⟨_, _, rfl, changed, same.trans held⟩
    | some bytes =>
      obtain ⟨done, after, written, further, content⟩ :=
        writeFrame_of_content? (same.trans held) envelope
      rw [written]
      cases done with
      | false => exact .inl ⟨_, _, rfl, changed.trans further, content⟩
      | true =>
        exact .inr ⟨bytes, after, rfl, changed.trans further, not_not.mp outOfOrder,
          not_le.mp tooLong, rfl, content⟩

/-- An envelope that has been accepted is the next one, and its frame is put behind what there is in
the file. -/
theorem of_append {later : Journal} {after : Disk}
    (accepted : journal.append disk envelope = (.ok (), later, after)) :
    later = { journal with lastSequence := envelope.sequence } ∧
      FileTree.ChangedAt journal.path disk.tree after.tree ∧
      envelope.sequence = journal.lastSequence + 1 ∧
      envelope.encode.length < UInt32.size ∧
      ∀ bytes, disk.tree.content? journal.path = some bytes →
        after.tree.content? journal.path = some (bytes ++ Frame.write envelope) := by
  rcases journal.append_cases disk envelope with
    ⟨_, _, refused, _⟩ | ⟨before, _, again, changed, next, fits, found, content⟩
  · rw [refused] at accepted
    cases accepted
  · rw [again] at accepted
    cases accepted
    refine ⟨rfl, changed, next, fits, fun bytes held => ?_⟩
    rw [held] at found
    cases found
    exact content

/-- An envelope that has been accepted is held last. -/
theorem Holds.of_append {later : Journal} {after : Disk}
    (holds : journal.Holds disk.tree envelopes)
    (accepted : journal.append disk envelope = (.ok (), later, after)) :
    later.path = journal.path ∧ later.Holds after.tree (envelopes ++ [envelope]) := by
  obtain ⟨rfl, _, next, fits, content⟩ := Journal.of_append accepted
  have number : envelope.sequence = 0 + UInt64.ofNat envelopes.length + 1 := by
    rw [next, holds.last, UInt64.zero_add]
  refine ⟨rfl, ?_, ?_, ?_, ?_⟩
  · exact numbered_append.mpr ⟨holds.numbered, number, trivial⟩
  · rw [number, UInt64.zero_add, List.length_append, List.length_singleton, UInt64.ofNat_add]
    rfl
  · intro other member
    rcases List.mem_append.mp member with earlier | last
    · exact holds.fits other earlier
    · exact List.mem_singleton.mp last ▸ fits
  · rw [Frame.writeAll_append, Frame.writeAll_singleton]
    exact content _ holds.content

/-- An envelope is accepted and then held last, or it is refused and nothing has changed. -/
theorem Holds.append (holds : journal.Holds disk.tree envelopes) (envelope : LoggedEnvelope) :
    ∃ outcome later after, journal.append disk envelope = (outcome, later, after) ∧
      FileTree.ChangedAt journal.path disk.tree after.tree ∧
      ((outcome = .ok () ∧ later.path = journal.path ∧
          later.Holds after.tree (envelopes ++ [envelope])) ∨
        (∃ failure, outcome = .error failure) ∧ later = journal ∧
          journal.Holds after.tree envelopes) := by
  rcases journal.append_cases disk envelope with
    ⟨failure, after, refused, changed, same⟩ | ⟨_, after, accepted, changed, _⟩
  · exact ⟨_, _, after, refused, changed,
      .inr ⟨⟨failure, rfl⟩, rfl, { holds with content := same.trans holds.content }⟩⟩
  · exact ⟨_, _, after, accepted, changed, .inl ⟨rfl, holds.of_append accepted⟩⟩

/-- Where every write succeeds, an envelope with the next number is accepted unless its length does
not fit in front of its frame. -/
theorem append_of_writable {place : Place} (held : disk.tree.content? journal.path = some bytes)
    (reliable : disk.fates = []) (writable : disk.tree.filePlace? journal.path = some place)
    (next : envelope.sequence = journal.lastSequence + 1)
    (fits : envelope.encode.length < UInt32.size) :
    ∃ after, journal.append disk envelope =
      (.ok (), { journal with lastSequence := envelope.sequence }, after) := by
  have inOrder : ¬ envelope.sequence ≠ journal.lastSequence + 1 := not_not.mpr next
  obtain ⟨opened, between, opening, changed, same, still⟩ := disk.openEnd_cases journal.path
  obtain ⟨reliableStill, isOpen⟩ := still reliable
  obtain rfl : opened = true := by rw [isOpen, writable, Option.isSome_some]
  have leads : between.tree.place? journal.path = some place := by
    rw [FileTree.place?_of_sameFolders changed.folders]
    exact (FileTree.filePlace?_eq_some_iff.mp writable).1
  have writableStill := FileTree.filePlace?_of_content? (same.trans held) leads
  refine ⟨⟨between.tree.put place (bytes ++ Frame.write envelope), []⟩, ?_⟩
  rw [append, if_neg inOrder, opening]
  dsimp only
  rw [if_neg (not_le.mpr fits), writeFrame_of_reliable reliableStill (same.trans held),
    writableStill]

/-- By induction on the envelopes, a log holds those that it had and those that it has accepted. -/
theorem Holds.appendAll (holds : journal.Holds disk.tree envelopes) (added : List LoggedEnvelope) :
    ∃ later after accepted, journal.appendAll disk added = (later, after, accepted) ∧
      FileTree.ChangedAt journal.path disk.tree after.tree ∧
      later.path = journal.path ∧ later.Holds after.tree (envelopes ++ accepted) := by
  induction added generalizing journal disk envelopes with
  | nil =>
    refine ⟨journal, disk, [], rfl, .refl _ _, rfl, ?_⟩
    rw [List.append_nil]
    exact holds
  | cons envelope rest inductionHypothesis =>
    obtain ⟨outcome, between, disk', appended, changed, step⟩ := holds.append envelope
    rcases step with ⟨rfl, samePath, held⟩ | ⟨⟨failure, rfl⟩, rfl, held⟩
    · obtain ⟨later, after, accepted, run, further, path, all⟩ := inductionHypothesis held
      refine ⟨later, after, envelope :: accepted, ?_, changed.trans (samePath ▸ further),
        path.trans samePath, ?_⟩
      · rw [Journal.appendAll, appended]
        dsimp only
        rw [run]
      · rw [List.append_assoc, List.singleton_append] at all
        exact all
    · obtain ⟨later, after, accepted, run, further, path, all⟩ := inductionHypothesis held
      refine ⟨later, after, accepted, ?_, changed.trans further, path, all⟩
      rw [Journal.appendAll, appended]
      exact run

/-! ### A log that starts where there is nothing -/

/-- The folder of a log that has been opened is there. -/
theorem folder_of_openAt (opening : openAt disk path = (.ok journal, opened)) :
    disk.tree.makeFolders (Path.parent path) = (true, opened.tree) ∧
      (readAt opened.tree path).map (fun envelopes => ⟨path, lastOf envelopes⟩) = .ok journal := by
  rw [openAt, Disk.makeFolders] at opening
  cases made : disk.tree.makeFolders (Path.parent path) with
  | mk done tree =>
    rw [made] at opening
    cases done with
    | false => cases opening
    | true =>
      obtain ⟨read, same⟩ := Prod.mk.inj opening
      obtain rfl : tree = opened.tree := congrArg Disk.tree same
      exact ⟨rfl, read⟩

theorem holds_of_absent (opening : openAt disk path = (.ok journal, opened))
    (absent : opened.tree.exists? path = false) :
    journal = ⟨path, 0⟩ ∧ journal.Holds opened.tree [] := by
  have content := FileTree.content?_of_absent absent
  obtain ⟨_, read⟩ := folder_of_openAt opening
  have start : journal = ⟨path, 0⟩ := by
    rw [readAt_of_content? content] at read
    exact (Except.ok.inj read).symm
  refine ⟨start, trivial, ?_, fun _ member => (List.not_mem_nil member).elim, ?_⟩
  · rw [start]
    rfl
  · rw [start]
    exact content

/-- A log is opened where there is no file only if there is nothing. -/
theorem holds_of_noFile (folder : disk.tree.makeFolders (Path.parent path) = (true, disk.tree))
    (opening : openAt disk path = (.ok journal, opened))
    (noFile : ∀ place content, disk.tree.place? path = some place →
      disk.tree.at? place ≠ some (.file content)) :
    opened = disk ∧ journal = ⟨path, 0⟩ ∧ journal.Holds disk.tree [] := by
  have reading := opening
  rw [openAt_of_folder folder] at reading
  obtain ⟨read, rfl⟩ := Prod.mk.inj reading
  refine ⟨rfl, holds_of_absent opening (Bool.eq_false_of_not_eq_true fun there => ?_)⟩
  obtain ⟨envelopes, read, _⟩ := map_eq_ok read
  rw [readAt, if_pos there, readFile] at read
  split at read
  next => cases read
  next bytes found =>
    obtain ⟨node, isThere, content⟩ := Option.bind_eq_some_iff.mp found
    obtain ⟨place, leads, atPlace⟩ := Option.bind_eq_some_iff.mp isThere
    cases node with
    | folder => cases content
    | file held => exact noFile place held leads atPlace

/-- A log that is opened where there is nothing is read back after any number of envelopes, and
opened again, as the envelopes that it has accepted, if each of them has a length that is read. The
length is not asked for when an envelope is appended: after the first that is too long the log is
corrupt at its frame. -/
theorem open_appendAll (opening : openAt disk path = (.ok journal, opened))
    (absent : opened.tree.exists? path = false) (envelopes : List LoggedEnvelope) :
    ∃ later after accepted, journal.appendAll opened envelopes = (later, after, accepted) ∧
      later = ⟨path, UInt64.ofNat accepted.length⟩ ∧
      ((∀ envelope ∈ accepted, Frame.Readable envelope) →
        openAt after path = (.ok later, after) ∧ later.load after.tree = .ok accepted) ∧
      ∀ earlier envelope rest, accepted = earlier ++ envelope :: rest →
        (∀ other ∈ earlier, Frame.Readable other) →
        Frame.greatestLength < envelope.encode.length →
          let corruption : Failure :=
            .corrupt (Frame.writeAll earlier).length (.badLength envelope.encode.length)
          openAt after path = (.error corruption, after) ∧
            later.load after.tree = .error corruption := by
  obtain ⟨rfl, start⟩ := holds_of_absent opening absent
  obtain ⟨later, after, accepted, run, changed, samePath, holds⟩ := start.appendAll envelopes
  rw [List.nil_append] at holds
  obtain rfl : later = ⟨path, UInt64.ofNat accepted.length⟩ := by
    rw [← holds.last, ← show later.path = path from samePath]
  have folder : after.tree.makeFolders (Path.parent path) = (true, after.tree) :=
    FileTree.makeFolders_again (folder_of_openAt opening).1 changed.keepsFolders
  refine ⟨_, after, accepted, run, rfl,
    fun readable => ⟨holds.openAt readable folder, holds.load readable⟩,
    fun earlier envelope rest split readable tooLong => ?_⟩
  have corrupt := (split ▸ holds).load_tooLong readable tooLong
  have read : readAt after.tree path = _ := corrupt
  refine ⟨?_, corrupt⟩
  rw [openAt_of_folder folder, read]
  rfl

/-- An empty disk on which the second write breaks off. -/
def breaksOff : Disk := ⟨.empty, [.done, .cut 3]⟩

/-- The envelopes of a log, in order. -/
def freezeThree : List LoggedEnvelope :=
  [.freezeOne "GLD-1A2", { LoggedEnvelope.freezeOne "SLV-2B3" with sequence := 2 },
    { LoggedEnvelope.freezeOne "GLD-1A2" with sequence := 3 }]

/-- The first of them is tried twice, and the second again after its frame has been cut off. -/
theorem open_appendAll_breaksOff :
    openAt breaksOff ["requests.log"] = (.ok ⟨["requests.log"], 0⟩, breaksOff) ∧
      breaksOff.tree.exists? ["requests.log"] = false ∧
      ∃ later after,
        appendAll ⟨["requests.log"], 0⟩ breaksOff
            (.freezeOne "GLD-1A2" :: .freezeOne "GLD-1A2" ::
              { LoggedEnvelope.freezeOne "SLV-2B3" with sequence := 2 } :: freezeThree.tail) =
          (later, after, freezeThree) ∧
        openAt after ["requests.log"] = (.ok later, after) ∧
        later.load after.tree = .ok freezeThree := by
  have opening : openAt breaksOff ["requests.log"] =
      (.ok ⟨["requests.log"], 0⟩, breaksOff) := by decide +kernel
  have absent : breaksOff.tree.exists? ["requests.log"] = false := by decide +kernel
  obtain ⟨later, after, accepted, run, _, reads, _⟩ := open_appendAll opening absent
    (.freezeOne "GLD-1A2" :: .freezeOne "GLD-1A2" ::
      { LoggedEnvelope.freezeOne "SLV-2B3" with sequence := 2 } :: freezeThree.tail)
  obtain rfl : freezeThree = accepted := by
    rw [← show _ = accepted from congrArg (·.2.2) run]
    decide +kernel
  exact ⟨opening, absent, later, after, run, reads (by decide +kernel)⟩

end Journal

/-! ### An envelope that is one byte too long -/

section Lengths

open Wire

theorem length_utf8 (text : String) : (utf8 text).length = text.utf8ByteSize := by
  rw [utf8, ← String.size_toByteArray, ByteArray.size, Array.length_toList]

theorem length_write_bytes (number : Nat) (content : Bytes) :
    (Field.write ⟨number, .bytes content⟩).length =
      (key number 2).length + (lengthVarint content.length).length + content.length := by
  rw [Field.write, List.length_append, List.length_append]

/-- A symbol that is 24 bytes shorter than the longest envelope that is read. -/
def longSymbol : String :=
  String.ofList (List.replicate 16777192 'A')

theorem length_utf8_replicate (length : Nat) :
    (utf8 (String.ofList (List.replicate length 'A'))).length = length := by
  rw [length_utf8, String.utf8ByteSize_ofList]
  induction length with
  | zero => rfl
  | succ length inductionHypothesis =>
    rw [List.replicate_succ, String.utf8Len_cons, inductionHypothesis]
    rfl

theorem length_longSymbol : (utf8 longSymbol).length = 16777192 :=
  length_utf8_replicate 16777192

theorem length_freezeOne_longSymbol :
    (LoggedEnvelope.freezeOne longSymbol).encode.length = Frame.greatestLength + 1 := by
  have notEmpty : longSymbol ≠ "" := by
    intro empty
    have length := length_longSymbol
    rw [empty] at length
    cases length
  have order : (write (Order.fields ⟨"1", longSymbol, "o"⟩)).length = 16777203 := by
    rw [Order.fields, textField, textField, textField, if_neg (by decide), if_neg notEmpty,
      if_neg (by decide), write]
    simp only [List.flatMap_append, List.flatMap_singleton, List.length_append,
      length_write_bytes, length_longSymbol]
    rfl
  have request : (write [Request.field (.order .freeze ⟨"1", longSymbol, "o"⟩)]).length =
      16777208 := by
    rw [Request.field, messageField, write, List.flatMap_singleton, length_write_bytes, order]
    rfl
  rw [LoggedEnvelope.encode, LoggedEnvelope.freezeOne, LoggedEnvelope.fields, wordField,
    wordField, if_neg (by decide), if_neg (by decide), write]
  simp only [List.flatMap_append, List.flatMap_singleton, List.length_append, messageField,
    LoggedEnvelope.requestFields, length_write_bytes, request]
  rfl

end Lengths

namespace Journal

/-- A log on which every write succeeds accepts an envelope that is one byte too long to be read;
the log can then be neither opened nor read. -/
theorem append_longSymbol :
    openAt (.ofTree .empty) ["requests.log"] = (.ok ⟨["requests.log"], 0⟩, .ofTree .empty) ∧
      FileTree.exists? .empty ["requests.log"] = false ∧
      ∃ later after,
        append ⟨["requests.log"], 0⟩ (.ofTree .empty) (.freezeOne longSymbol) =
          (.ok (), later, after) ∧
        (openAt after ["requests.log"]).1 =
          .error (.corrupt 0 (.badLength (Frame.greatestLength + 1))) ∧
        later.load after.tree = .error (.corrupt 0 (.badLength (Frame.greatestLength + 1))) := by
  have opening : openAt (.ofTree .empty) ["requests.log"] =
      (.ok ⟨["requests.log"], 0⟩, .ofTree .empty) := by decide +kernel
  have absent : FileTree.exists? .empty ["requests.log"] = false := by decide +kernel
  have writable : FileTree.filePlace? .empty ["requests.log"] = some ["requests.log"] := by
    decide +kernel
  have length := length_freezeOne_longSymbol
  have fits : (LoggedEnvelope.freezeOne longSymbol).encode.length < UInt32.size := by
    rw [length]
    decide
  have tooLong : Frame.greatestLength < (LoggedEnvelope.freezeOne longSymbol).encode.length :=
    length ▸ Nat.lt_succ_self _
  obtain ⟨_, start⟩ := holds_of_absent opening absent
  obtain ⟨accepted, appended⟩ := append_of_writable start.content rfl writable
    (show (LoggedEnvelope.freezeOne longSymbol).sequence = 0 + 1 from rfl) fits
  obtain ⟨outcome, later, after, run, changed, step⟩ := start.append (.freezeOne longSymbol)
  rw [appended] at run
  obtain ⟨rfl, rfl, rfl⟩ : _ ∧ _ ∧ _ := by simpa only [Prod.mk.injEq] using run
  rcases step with ⟨_, _, holds⟩ | ⟨⟨failure, refused⟩, _⟩
  · have corrupt := Holds.load_tooLong (show Holds _ _ ([] ++ _ :: []) from holds)
      (fun _ member => (List.not_mem_nil member).elim) tooLong
    rw [length] at corrupt
    have folder := FileTree.makeFolders_again (folder_of_openAt opening).1 changed.keepsFolders
    refine ⟨opening, absent, _, _, appended, ?_, corrupt⟩
    rw [Journal.load] at corrupt
    rw [openAt_of_folder folder, corrupt]
    rfl
  · cases refused

end Journal

end TokenLedger
