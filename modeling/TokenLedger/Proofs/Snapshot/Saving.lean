/-
This file proves what a folder of snapshots holds after any number of them have been saved in it,
whatever their numbers. Names and numbers determine each other, although short numbers are padded,
so that a folder that was empty has one file for each number, with the text of the snapshot that was
saved last under it. What is loaded and listed afterwards, and what is the latest, follows from
these files.
-/

import Mathlib
import TokenLedger.Proofs.Disk.Contents
import TokenLedger.Proofs.Snapshot.Files

namespace TokenLedger

namespace Snapshot

/-! ### Names and numbers -/

theorem ofDigitChars_paddedDigits (number : Nat) :
    Nat.ofDigitChars 10 (paddedDigits number) 0 = number := by
  have zeros (count : Nat) : Nat.ofDigitChars 10 (List.replicate count '0') 0 = 0 := by
    induction count with
    | zero => rfl
    | succ count inductionHypothesis =>
      rw [List.replicate_succ, Nat.ofDigitChars_cons]
      exact inductionHypothesis
  rw [paddedDigits, Nat.ofDigitChars_append, zeros, Nat.ofDigitChars_ten_toDigits]

theorem isDigit_of_mem_paddedDigits {number : Nat} {char : Char}
    (member : char ∈ paddedDigits number) : char.isDigit = true := by
  rcases List.mem_append.mp member with zero | digit
  · rw [List.eq_of_mem_replicate zero]
    rfl
  · exact Json.isDigit_of_mem_toDigits char digit

/-- A number is read back from its padded digits. -/
theorem wordOfChars?_paddedDigits (word : UInt64) :
    wordOfChars? (paddedDigits word.toNat) = some word := by
  have digits : Amount.isDigits (paddedDigits word.toNat) = true := by
    have nonempty : paddedDigits word.toNat ≠ [] :=
      List.append_ne_nil_of_right_ne_nil _ Nat.toDigits_ne_nil
    simp only [Amount.isDigits, Bool.and_eq_true, Bool.not_eq_true', List.isEmpty_eq_false_iff,
      List.all_eq_true]
    exact ⟨nonempty, fun char member => isDigit_of_mem_paddedDigits member⟩
  rw [wordOfChars?, if_pos digits, ofDigitChars_paddedDigits]
  · exact Amount.ofNat?_eq_some_iff.mpr rfl
  · intro rest signed
    have digit : '+'.isDigit = true :=
      isDigit_of_mem_paddedDigits (signed ▸ List.mem_cons_self)
    cases digit

/-- The number in the name of the file of a snapshot is its own. -/
@[simp] theorem sequenceOfName?_fileName (sequence : UInt64) :
    sequenceOfName? (fileName sequence) = some sequence := by
  have written : (fileName sequence).toList =
      nameStart.toList ++ (paddedDigits sequence.toNat ++ nameEnd.toList) := by
    rw [fileName, String.toList_append, String.toList_append, String.toList_ofList,
      List.append_assoc]
  have start : after? nameStart.toList (fileName sequence).toList =
      some (paddedDigits sequence.toNat ++ nameEnd.toList) := by
    rw [written, after?, if_pos (List.isPrefixOf_iff_prefix.mpr (List.prefix_append _ _)),
      List.drop_left]
  have ending : before? nameEnd.toList (paddedDigits sequence.toNat ++ nameEnd.toList) =
      some (paddedDigits sequence.toNat) := by
    rw [before?, if_pos (List.isSuffixOf_iff_suffix.mpr (List.suffix_append _ _)),
      List.length_append, Nat.add_sub_cancel, List.take_left]
  rw [sequenceOfName?, start, Option.bind_eq_bind, Option.bind_some, ending]
  exact wordOfChars?_paddedDigits sequence

theorem fileName_injective : Function.Injective fileName := by
  intro first second same
  have read := sequenceOfName?_fileName first
  rw [same, sequenceOfName?_fileName] at read
  exact (Option.some.inj read).symm

end Snapshot

/-! ### Savings -/

/-- What a snapshot is saved of: a state at a place in the sequence. -/
structure Saving where
  sequence : UInt64
  nonce : UInt64
  state : GenesisState

namespace Saving

def snapshot (saving : Saving) : Snapshot :=
  .ofState saving.sequence saving.nonce saving.state

/-- The bytes of the file of a saving. -/
def bytes (saving : Saving) : Bytes :=
  utf8 saving.snapshot.toJson.compact

/-- Save snapshots one after the other: the disk afterwards, if all of them have been saved. -/
def saveAll (folder : Path) : List Saving → Disk → Except Failure Disk
  | [], disk => .ok disk
  | saving :: rest, disk =>
    match saving.snapshot.save disk folder with
    | (.ok _, next) => saveAll folder rest next
    | (.error failure, _) => .error failure

/-- What was saved last under a number. -/
def lastOf? (savings : List Saving) (sequence : UInt64) : Option Saving :=
  savings.reverse.find? fun saving => saving.sequence = sequence

theorem lastOf?_concat (savings : List Saving) (saving : Saving) (sequence : UInt64) :
    lastOf? (savings ++ [saving]) sequence =
      if saving.sequence = sequence then some saving else lastOf? savings sequence := by
  rw [lastOf?, List.reverse_append, List.reverse_singleton, List.singleton_append, List.find?_cons,
    ← lastOf?]
  by_cases same : saving.sequence = sequence <;> simp [same]

theorem lastOf?_eq_none_iff {savings : List Saving} {sequence : UInt64} :
    lastOf? savings sequence = none ↔ sequence ∉ savings.map Saving.sequence := by
  simp [lastOf?]

theorem of_lastOf? {savings : List Saving} {sequence : UInt64} {saving : Saving}
    (found : lastOf? savings sequence = some saving) :
    saving ∈ savings ∧ saving.sequence = sequence :=
  ⟨List.mem_reverse.mp (List.mem_of_find?_eq_some found), by simpa using List.find?_some found⟩

/-- A saving is the last one under its number if that does not occur afterwards. -/
theorem lastOf?_of_last {earlier later : List Saving} {saving : Saving}
    (last : saving.sequence ∉ later.map Saving.sequence) :
    lastOf? (earlier ++ saving :: later) saving.sequence = some saving := by
  have none : lastOf? later saving.sequence = none := lastOf?_eq_none_iff.mpr last
  rw [lastOf?] at none
  rw [lastOf?, List.reverse_append, List.reverse_cons, List.append_assoc, List.find?_append, none]
  simp

end Saving

open Snapshot Saving

/-! ### What the folder holds -/

/-- The folder is there, and holds one file for each number under which a snapshot was saved, with
the text of the last one. -/
structure FileTree.Stocked (tree : FileTree) (folder : Path) (home : Place)
    (savings : List Saving) : Prop where
  leads : tree.LeadsTo folder home
  complete : tree.makeFolders folder = (true, tree)
  reached : ∀ saving ∈ savings,
    tree.place? (place folder saving.sequence) = some (home ++ [fileName saving.sequence])
  files : ∀ sequence, tree.at? (home ++ [fileName sequence]) =
    (lastOf? savings sequence).map fun saving => .file saving.bytes
  others : ∀ name, tree.at? (home ++ [name]) ≠ none → ∃ sequence, name = fileName sequence

theorem FileTree.LeadsTo.eq_of_place?_fileName {tree : FileTree} {folder : Path}
    {home target : Place} {sequence : UInt64} (leads : tree.LeadsTo folder home)
    (found : tree.place? (place folder sequence) = some target) :
    target = home ++ [fileName sequence] :=
  leads.eq_of_place? (List.forall_mem_singleton.mpr (plain_fileName sequence)) found

/-- Saving a snapshot makes the folder and then puts the file. -/
theorem Snapshot.save_eq_ok {snapshot : Snapshot} {disk after : Disk} {folder path : Path}
    (saved : snapshot.save disk folder = (.ok path, after)) :
    ∃ made target, disk.tree.makeFolders folder = (true, made) ∧
      made.filePlace? (place folder snapshot.sequence) = some target ∧
      after.tree = made.put target (utf8 snapshot.toJson.compact) := by
  rw [save, Disk.makeFolders] at saved
  cases folders : disk.tree.makeFolders folder with
  | mk done made =>
    rw [folders] at saved
    cases done with
    | false => cases saved
    | true =>
      dsimp only at saved
      split at saved
      next => cases saved
      next _ written wrote =>
        obtain rfl : written = after := congrArg Prod.snd saved
        obtain ⟨target, writable, rfl⟩ := Disk.writeAfter_eq_true wrote
        exact ⟨made, target, rfl, writable, rfl⟩

namespace FileTree

variable {tree : FileTree} {disk after : Disk} {folder : Path} {home : Place}
  {savings : List Saving} {saving : Saving} {sequence : UInt64}

/-- An absent folder is made without files. -/
theorem Absent.stocked {made : FileTree} {target : Place} (absent : tree.Absent folder)
    (folders : tree.makeFolders folder = (true, made))
    (writable : made.filePlace? (place folder sequence) = some target) :
    ∃ home, made.Stocked folder home [] := by
  obtain ⟨found, _⟩ := filePlace?_eq_some_iff.mp writable
  obtain ⟨home, there, leads⟩ := place?_of_place?_name found
  have empty := absent.empty
  rw [folders] at empty
  have vacant (name : String) : made.at? (home ++ [name]) = none := by
    by_contra occupied
    have listed := (mem_names_iff there).mpr occupied
    rw [empty] at listed
    cases listed
  exact ⟨home, leads, makeFolders_again folders fun _ folder => folder,
    fun saving member => absurd member List.not_mem_nil, fun sequence => vacant _,
    fun name occupied => absurd (vacant name) occupied⟩

/-- What one saving does to the folder. -/
theorem Stocked.put {target : Place} (stocked : tree.Stocked folder home savings)
    (writable : tree.filePlace? (place folder saving.sequence) = some target) :
    (tree.put target saving.bytes).Stocked folder home (savings ++ [saving]) := by
  obtain ⟨found, noFolder⟩ := filePlace?_eq_some_iff.mp writable
  obtain rfl := stocked.leads.eq_of_place?_fileName found
  have keeps := keepsFolders_put saving.bytes noFolder
  refine ⟨stocked.leads.keep keeps, makeFolders_again stocked.complete keeps, ?_, ?_, ?_⟩
  · intro other member
    rw [place?_put saving.bytes noFolder]
    rcases List.mem_append.mp member with before | own
    · exact stocked.reached other before
    · rw [List.mem_singleton.mp own]
      exact found
  · intro number
    rw [lastOf?_concat]
    split
    next same =>
      rw [← same, at?_put_self _ (ne_root_of_noFolder noFolder), Option.map_some]
    next other =>
      have apart : home ++ [fileName number] ≠ home ++ [fileName saving.sequence] := fun same =>
        other (fileName_injective (by simpa using same.symm))
      rw [at?_put_other _ apart]
      exact stocked.files number
  · intro name occupied
    by_cases same : name = fileName saving.sequence
    · exact ⟨_, same⟩
    · have apart : home ++ [name] ≠ home ++ [fileName saving.sequence] := by simpa using same
      rw [at?_put_other _ apart] at occupied
      exact stocked.others name occupied

/-- By induction on the savings, the folder holds what was saved in it after any number of them. -/
theorem Stocked.saveAll {further : List Saving} (stocked : disk.tree.Stocked folder home savings)
    (saved : saveAll folder further disk = .ok after) :
    after.tree.Stocked folder home (savings ++ further) := by
  induction further generalizing disk savings with
  | nil =>
    obtain rfl := Except.ok.inj saved
    rwa [List.append_nil]
  | cons saving rest inductionHypothesis =>
    rw [Saving.saveAll] at saved
    split at saved
    next path next once =>
      obtain ⟨made, target, folders, writable, written⟩ := save_eq_ok once
      obtain rfl : disk.tree = made := congrArg Prod.snd (stocked.complete.symm.trans folders)
      have stockedNext := stocked.put writable
      rw [Saving.bytes, ← written] at stockedNext
      rw [List.append_cons]
      exact inductionHypothesis stockedNext saved
    next => cases saved

theorem stocked_of_saveAll (absent : disk.tree.Absent folder)
    (saved : saveAll folder savings disk = .ok after) (nonempty : savings ≠ []) :
    ∃ home, after.tree.Stocked folder home savings := by
  obtain ⟨first, rest, rfl⟩ := List.exists_cons_of_ne_nil nonempty
  rw [Saving.saveAll] at saved
  split at saved
  next path next once =>
    obtain ⟨made, target, folders, writable, written⟩ := save_eq_ok once
    obtain ⟨home, start⟩ := absent.stocked folders writable
    have stocked := start.put writable
    rw [Saving.bytes, ← written] at stocked
    exact ⟨home, stocked.saveAll saved⟩
  next => cases saved

/-! ### What is found in the folder -/

namespace Stocked

variable (stocked : tree.Stocked folder home savings)

include stocked

theorem load_of_saved (last : lastOf? savings sequence = some saving) :
    load tree folder sequence = .ok (some saving.snapshot) := by
  obtain ⟨member, rfl⟩ := of_lastOf? last
  refine load_of_file ?_
  rw [node?, stocked.reached saving member, Option.bind_some, stocked.files, last, Option.map_some,
    Saving.bytes]

theorem load_of_unsaved (unsaved : lastOf? savings sequence = none) :
    load tree folder sequence = .ok none := by
  have absent : tree.exists? (place folder sequence) = false := by
    rw [exists?, node?]
    cases found : tree.place? (place folder sequence) with
    | none => rfl
    | some target =>
      obtain rfl := stocked.leads.eq_of_place?_fileName found
      rw [Option.bind_some, stocked.files, unsaved]
      rfl
  exact load_of_absent absent

theorem load_eq_none_iff :
    load tree folder sequence = .ok none ↔ sequence ∉ savings.map Saving.sequence := by
  rw [← lastOf?_eq_none_iff]
  refine ⟨fun nothing => ?_, stocked.load_of_unsaved⟩
  cases last : lastOf? savings sequence with
  | none => rfl
  | some saving =>
    rw [stocked.load_of_saved last] at nothing
    cases nothing

theorem place?_folder (nonempty : savings ≠ []) : tree.place? folder = some home := by
  obtain ⟨first, rest, rfl⟩ := List.exists_cons_of_ne_nil nonempty
  obtain ⟨other, there, leads⟩ :=
    place?_of_place?_name (stocked.reached first List.mem_cons_self)
  rwa [Option.some.inj (stocked.leads.follow.symm.trans leads.follow)]

/-- The numbers in the names of the folder are those under which a snapshot was saved. -/
theorem mem_numbers_iff (nonempty : savings ≠ []) :
    sequence ∈ (tree.names folder).filterMap sequenceOfName? ↔
      sequence ∈ savings.map Saving.sequence := by
  have saved : sequence ∈ savings.map Saving.sequence ↔
      tree.at? (home ++ [fileName sequence]) ≠ none := by
    rw [stocked.files, Ne, Option.map_eq_none_iff, lastOf?_eq_none_iff, not_not]
  have there := stocked.place?_folder nonempty
  rw [saved, List.mem_filterMap]
  constructor
  · rintro ⟨name, listed, number⟩
    have occupied := (mem_names_iff there).mp listed
    obtain ⟨other, rfl⟩ := stocked.others name occupied
    rw [sequenceOfName?_fileName, Option.some.injEq] at number
    rwa [← number]
  · intro occupied
    exact ⟨_, (mem_names_iff there).mpr occupied, sequenceOfName?_fileName sequence⟩

/-- No number stands in two names. -/
theorem nodup_numbers (nonempty : savings ≠ []) :
    ((tree.names folder).filterMap sequenceOfName?).Nodup := by
  have there := stocked.place?_folder nonempty
  have numbered : ∀ name ∈ tree.names folder, ∃ number, name = fileName number := fun name listed =>
    stocked.others name ((mem_names_iff there).mp listed)
  refine List.pairwise_filterMap.mpr ((tree.nodup_names folder).imp_of_mem ?_)
  intro first second isFirst isSecond distinct number firstNumber other secondNumber same
  obtain ⟨firstSequence, rfl⟩ := numbered first isFirst
  obtain ⟨secondSequence, rfl⟩ := numbered second isSecond
  rw [sequenceOfName?_fileName, Option.some.injEq] at firstNumber secondNumber
  rw [firstNumber, secondNumber, same] at distinct
  exact distinct rfl

/-- The folder lists the numbers under which something was saved, in ascending order. -/
theorem list_eq (nonempty : savings ≠ []) :
    ∃ sequences, list tree folder = .ok sequences ∧ sequences.Pairwise (· < ·) ∧
      ∀ sequence, sequence ∈ sequences ↔ sequence ∈ savings.map Saving.sequence := by
  have there := stocked.place?_folder nonempty
  have isFolder : tree.node? folder = some .folder := by
    rw [node?, there, Option.bind_some, holdsFolder_iff.mp stocked.leads.folder]
  have distinct := stocked.nodup_numbers nonempty
  refine ⟨sortBy id ((tree.names folder).filterMap sequenceOfName?), ?_, ?_, fun sequence => ?_⟩
  · rw [list, exists?, FileTree.isFolder, isFolder]
    rfl
  · refine (pairwise_before_sortBy id (by rwa [List.map_id])).imp fun {earlier later} before => ?_
    exact of_decide_eq_true before
  · rw [(sortBy_perm id _).mem_iff, stocked.mem_numbers_iff nonempty]

end Stocked

end FileTree

namespace Snapshot

/-- In ascending order, the greatest number is the last. -/
theorem getLast?_of_greatest {sequences : List UInt64} {sequence : UInt64}
    (ascending : sequences.Pairwise (· < ·)) (member : sequence ∈ sequences)
    (greatest : ∀ other ∈ sequences, other ≤ sequence) :
    sequences.getLast? = some sequence := by
  obtain ⟨front, last, rfl⟩ :=
    (List.eq_nil_or_concat' sequences).resolve_left (List.ne_nil_of_mem member)
  rw [List.getLast?_concat, Option.some.injEq]
  rcases List.mem_append.mp member with before | own
  · have below := (List.pairwise_append.mp ascending).2.2 sequence before last List.mem_cons_self
    have above := greatest last (List.mem_append_right _ List.mem_cons_self)
    exact absurd below (UInt64.not_lt.mpr above)
  · exact (List.mem_singleton.mp own).symm

theorem list_of_missing {tree : FileTree} {folder : Path}
    (missing : tree.exists? folder = false) : list tree folder = .ok [] := by
  rw [list, missing]
  rfl

/-- A folder that is not there has no snapshots. -/
theorem load_of_missing {tree : FileTree} {folder : Path} (missing : tree.exists? folder = false)
    (sequence : UInt64) : load tree folder sequence = .ok none := by
  have absent : tree.exists? (place folder sequence) = false := by
    rw [FileTree.exists?, FileTree.node?]
    cases found : tree.place? (place folder sequence) with
    | none => rfl
    | some target =>
      obtain ⟨home, there, leads⟩ := FileTree.place?_of_place?_name found
      rw [FileTree.exists?_of_leadsTo there leads] at missing
      cases missing
  exact load_of_absent absent

/-- Snapshots saved one after the other in a folder that was not there, under any numbers and in any
order, are all found there: the list of the folder has each number once, in ascending order; what is
loaded under a number is the snapshot that was saved last under it, with the digest of its state and
with the state itself, its records sorted; and the latest snapshot is the one of the greatest
number. -/
theorem savings_found {disk after : Disk} {folder : Path} {savings : List Saving}
    (absent : disk.tree.Absent folder) (saved : saveAll folder savings disk = .ok after) :
    (∃ sequences, list after.tree folder = .ok sequences ∧ sequences.Pairwise (· < ·) ∧
      ∀ sequence, sequence ∈ sequences ↔ sequence ∈ savings.map Saving.sequence) ∧
    (∀ sequence,
      load after.tree folder sequence = .ok none ↔ sequence ∉ savings.map Saving.sequence) ∧
    (∀ earlier saving later, savings = earlier ++ saving :: later →
      saving.sequence ∉ later.map Saving.sequence →
        ∃ snapshot state, load after.tree folder saving.sequence = .ok (some snapshot) ∧
          snapshot.sequence = saving.sequence ∧ snapshot.nonce = saving.nonce ∧
          snapshot.digest = saving.state.hash ∧
          snapshot.state = .ok state ∧ saving.state.SortedAs state) ∧
    (savings = [] → latest after.tree folder = .ok none) ∧
    ∀ saving ∈ savings, (∀ other ∈ savings, other.sequence ≤ saving.sequence) →
      latest after.tree folder = load after.tree folder saving.sequence := by
  rcases eq_or_ne savings [] with rfl | nonempty
  · -- Nothing has been saved, and the folder has not been made.
    obtain rfl := Except.ok.inj saved
    have listed := list_of_missing absent.missing
    refine ⟨⟨[], listed, .nil, fun _ => Iff.rfl⟩,
      fun sequence => iff_of_true (load_of_missing absent.missing sequence) List.not_mem_nil,
      fun earlier saving later split => ?_, fun _ => ?_,
      fun saving member => absurd member List.not_mem_nil⟩
    · exact absurd split.symm (List.append_ne_nil_of_right_ne_nil _ (List.cons_ne_nil _ _))
    · rw [latest, listed]
      rfl
  · obtain ⟨home, stocked⟩ := FileTree.stocked_of_saveAll absent saved nonempty
    obtain ⟨sequences, listed, ascending, members⟩ := stocked.list_eq nonempty
    refine ⟨⟨sequences, listed, ascending, members⟩, fun _ => stocked.load_eq_none_iff, ?_,
      fun empty => absurd empty nonempty, fun saving member greatest => ?_⟩
    · rintro earlier saving later rfl last
      exact ⟨_, _, stocked.load_of_saved (lastOf?_of_last last), rfl, rfl, rfl,
        state_ofState _ _ _, GenesisState.sortedAs_iff.mpr rfl⟩
    · refine latest_of_list listed (getLast?_of_greatest ascending ?_ fun other isListed => ?_)
      · exact (members _).mpr (List.mem_map_of_mem member)
      · obtain ⟨origin, isSaved, rfl⟩ := List.mem_map.mp ((members other).mp isListed)
        exact greatest origin isSaved

/-- The number of six digits comes after the one of seven in the order of the names, and one number
is used again. -/
def pastSixDigits : List Saving :=
  [⟨1000000, 1, .empty⟩, ⟨999999, 2, .empty⟩, ⟨1000000, 3, .empty⟩]

theorem savings_found_pastSixDigits :
    ∃ after snapshot, (FileTree.empty).Absent ["d"] ∧
      saveAll ["d"] pastSixDigits (.ofTree .empty) = .ok after ∧
      latest after.tree ["d"] = .ok (some snapshot) ∧
      snapshot.sequence = 1000000 ∧ snapshot.nonce = 3 := by
  have vacant (place : Place) (name : String) : FileTree.empty.at? (place ++ [name]) = none :=
    if_neg (List.append_ne_nil_of_right_ne_nil _ (List.cons_ne_nil _ _))
  have rooted : FileTree.empty.Rooted := fun place name there => absurd (vacant place name) there
  have root : FileTree.empty.LeadsTo [] [] := ⟨rfl, rfl⟩
  have plain : ∀ name ∈ ["d"], Path.Plain name := List.forall_mem_singleton.mpr (by decide)
  have missing : FileTree.empty.exists? ([] ++ ["d"]) = false := by decide
  have absent : FileTree.empty.Absent ["d"] := rooted.absent root plain missing
  obtain ⟨after, saved⟩ : ∃ after,
      saveAll ["d"] pastSixDigits (.ofTree .empty) = .ok after := ⟨_, rfl⟩
  obtain ⟨_, _, found, _, greatest⟩ := savings_found absent saved
  obtain ⟨snapshot, _, loaded, sequence, nonce, _⟩ :=
    found [⟨1000000, 1, .empty⟩, ⟨999999, 2, .empty⟩] ⟨1000000, 3, .empty⟩ [] rfl (by simp)
  refine ⟨after, snapshot, absent, saved, ?_, sequence, nonce⟩
  rw [greatest ⟨1000000, 3, .empty⟩ (by simp [pastSixDigits]) (by decide), loaded]

end Snapshot

end TokenLedger
