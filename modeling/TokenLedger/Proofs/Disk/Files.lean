/-
This file proves what writing and cutting a file changes. The folders stay, so that every path leads
to where it led, and nothing changes at any other place. A file that is not there is taken for one
that holds nothing.
-/

import Mathlib
import TokenLedger.Proofs.Disk.Folders

namespace TokenLedger

namespace FileTree

variable {tree between after : FileTree} {path : Path} {place : Place} {bytes : Bytes}

/-- The folders are the same, and so is everything but what the path leads to. -/
structure ChangedAt (path : Path) (tree after : FileTree) : Prop where
  folders : after.holdsFolder = tree.holdsFolder
  others : ∀ other, tree.place? path ≠ some other → after.at? other = tree.at? other

theorem ChangedAt.refl (path : Path) (tree : FileTree) : ChangedAt path tree tree :=
  ⟨rfl, fun _ _ => rfl⟩

theorem ChangedAt.keepsFolders (changed : ChangedAt path tree after) : tree.KeepsFolders after :=
  keepsFolders_of_eq changed.folders

theorem ChangedAt.trans (first : ChangedAt path tree between)
    (second : ChangedAt path between after) : ChangedAt path tree after := by
  refine ⟨second.folders.trans first.folders, fun other apart => ?_⟩
  have stillApart : between.place? path ≠ some other := by
    rwa [place?_of_sameFolders first.folders]
  exact (second.others other stillApart).trans (first.others other apart)

theorem changedAt_put (writable : tree.filePlace? path = some place) (content : Bytes) :
    ChangedAt path tree (tree.put place content) := by
  obtain ⟨found, noFolder⟩ := filePlace?_eq_some_iff.mp writable
  refine ⟨sameFolders_put content noFolder, fun other apart => at?_put_other content ?_⟩
  rintro rfl
  exact apart found

/-! ### What a file holds -/

/-- What there is to read at the end of a path: nothing where there is no file, but not a folder. -/
def content? (tree : FileTree) (path : Path) : Option Bytes :=
  if tree.exists? path then tree.read? path else some []

theorem read?_of_exists?_eq_false (absent : tree.exists? path = false) :
    tree.read? path = none := by
  rw [exists?, Option.isSome_eq_false_iff, Option.isNone_iff_eq_none] at absent
  rw [read?, absent]
  rfl

theorem exists?_of_read? (found : tree.read? path = some bytes) : tree.exists? path = true := by
  by_contra absent
  rw [read?_of_exists?_eq_false (Bool.eq_false_of_not_eq_true absent)] at found
  cases found

theorem content?_of_read? (found : tree.read? path = some bytes) :
    tree.content? path = some bytes := by
  rw [content?, if_pos (exists?_of_read? found), found]

theorem content?_of_absent (absent : tree.exists? path = false) :
    tree.content? path = some [] := by
  rw [content?, absent]
  rfl

/-- A file holds what there is to read, and where nothing can be read there is nothing. -/
theorem read?_cases_of_content? (held : tree.content? path = some bytes) :
    tree.read? path = some bytes ∨ tree.read? path = none ∧ bytes = [] := by
  rw [content?] at held
  split at held
  next => exact .inl held
  next absent =>
    refine .inr ⟨read?_of_exists?_eq_false (Bool.eq_false_of_not_eq_true absent), ?_⟩
    exact (Option.some.inj held).symm

theorem getD_read?_of_content? (held : tree.content? path = some bytes) :
    (tree.read? path).getD [] = bytes := by
  rcases read?_cases_of_content? held with found | ⟨none, empty⟩
  · rw [found, Option.getD_some]
  · rw [none, empty, Option.getD_none]

theorem content?_put_self (writable : tree.filePlace? path = some place) (content : Bytes) :
    (tree.put place content).content? path = some content :=
  content?_of_read? (read?_put_self content writable)

/-- A path to a file has a place to write to. -/
theorem filePlace?_of_read? (found : tree.read? path = some bytes) :
    ∃ place, tree.filePlace? path = some place := by
  rw [read?, node?] at found
  obtain ⟨node, there, content⟩ := Option.bind_eq_some_iff.mp found
  obtain ⟨place, leads, atPlace⟩ := Option.bind_eq_some_iff.mp there
  refine ⟨place, filePlace?_eq_some_iff.mpr ⟨leads, ?_⟩⟩
  rw [holdsFolder, atPlace]
  cases node with
  | folder => cases content
  | file _ => rfl

/-- Where there is something to read, or nothing, a file can be written. -/
theorem filePlace?_of_content? (held : tree.content? path = some bytes)
    (leads : tree.place? path = some place) : tree.filePlace? path = some place := by
  refine filePlace?_eq_some_iff.mpr ⟨leads, ?_⟩
  rw [content?, exists?, read?, node?, leads, Option.bind_some] at held
  rw [holdsFolder]
  cases atPlace : tree.at? place with
  | none => rfl
  | some node =>
    cases node with
    | folder =>
      rw [atPlace] at held
      cases held
    | file _ => rfl

/-- Where there is a folder instead of a file, nothing is written. -/
theorem filePlace?_of_content?_none (held : tree.content? path = none) :
    tree.filePlace? path = none := by
  rw [content?] at held
  split at held
  next there =>
    cases writable : tree.filePlace? path with
    | none => rfl
    | some place =>
      obtain ⟨leads, noFolder⟩ := filePlace?_eq_some_iff.mp writable
      rw [exists?, node?, leads, Option.bind_some] at there
      rw [read?, node?, leads, Option.bind_some] at held
      cases atPlace : tree.at? place with
      | none =>
        rw [atPlace] at there
        cases there
      | some node =>
        rw [atPlace] at held
        cases node with
        | folder =>
          rw [holdsFolder, atPlace] at noFolder
          cases noFolder
        | file bytes => cases held
  next => cases held

theorem change_of_read? (writable : tree.filePlace? path = some place)
    (found : tree.read? path = some bytes) (change : Bytes → Bytes) :
    tree.change path change = tree.put place (change bytes) := by
  rw [FileTree.change, writable, found]

theorem change_of_read?_none (none : tree.read? path = none) (change : Bytes → Bytes) :
    tree.change path change = tree := by
  rw [FileTree.change, none]
  cases tree.filePlace? path <;> rfl

end FileTree

namespace Disk

variable {disk after : Disk} {path : Path} {start bytes rest : Bytes}

/-- Whatever becomes of a write, nothing changes but the file. -/
theorem changedAt_writeAfter (disk : Disk) (path : Path) (start bytes : Bytes) :
    FileTree.ChangedAt path disk.tree (disk.writeAfter path start bytes).2.tree := by
  rw [writeAfter]
  cases writable : disk.tree.filePlace? path with
  | none => exact .refl path disk.tree
  | some place =>
    have changed (content : Bytes) := FileTree.changedAt_put writable content
    cases disk.nextFate with
    | refused => exact .refl path disk.tree
    | done => exact changed _
    | cut count => exact changed _
    | unconfirmed => exact changed _

theorem writeAfter_eq_true (written : disk.writeAfter path start bytes = (true, after)) :
    ∃ place, disk.tree.filePlace? path = some place ∧
      after = ⟨disk.tree.put place (start ++ bytes), disk.fates.tail⟩ := by
  rw [writeAfter] at written
  cases writable : disk.tree.filePlace? path with
  | none =>
    rw [writable] at written
    cases written
  | some place =>
    rw [writable] at written
    cases fate : disk.nextFate with
    | done =>
      rw [fate] at written
      exact ⟨place, rfl, (congrArg Prod.snd written).symm⟩
    | refused =>
      rw [fate] at written
      cases written
    | cut count =>
      rw [fate] at written
      cases written
    | unconfirmed =>
      rw [fate] at written
      cases written

/-- The next write brings all of its bytes, or the file is not even opened. -/
def WritesWhole (disk : Disk) : Prop :=
  disk.nextFate = .done ∨ disk.nextFate = .refused

/-- A write that fails, and does not break off, has changed nothing. -/
theorem writeAfter_eq_false (whole : disk.WritesWhole)
    (failed : disk.writeAfter path start bytes = (false, after)) : after.tree = disk.tree := by
  rw [writeAfter] at failed
  cases writable : disk.tree.filePlace? path with
  | none =>
    rw [writable] at failed
    exact congrArg (fun answer => answer.2.tree) failed.symm
  | some place =>
    rw [writable] at failed
    rcases whole with done | refused
    · rw [done] at failed
      cases failed
    · rw [refused] at failed
      exact congrArg (fun answer => answer.2.tree) failed.symm

/-- Where every write succeeds, a file is written if there is a place for it. -/
theorem writeAfter_of_reliable (reliable : disk.fates = []) (path : Path) (start bytes : Bytes) :
    disk.writeAfter path start bytes =
      match disk.tree.filePlace? path with
      | none => (false, disk)
      | some place => (true, ⟨disk.tree.put place (start ++ bytes), []⟩) := by
  rw [writeAfter]
  cases disk.tree.filePlace? path with
  | none => rfl
  | some place =>
    rw [nextFate, reliable]
    rfl

/-- Whether or not a file can be opened, there is to read what there was. Where every write
succeeds, it is opened if there is a place for it. -/
theorem openEnd_cases (disk : Disk) (path : Path) :
    ∃ opened after, disk.openEnd path = (opened, after) ∧
      FileTree.ChangedAt path disk.tree after.tree ∧
      after.tree.content? path = disk.tree.content? path ∧
      (disk.fates = [] → after.fates = [] ∧ opened = (disk.tree.filePlace? path).isSome) := by
  rw [openEnd]
  cases writable : disk.tree.filePlace? path with
  | none => exact ⟨false, disk, rfl, .refl path disk.tree, rfl, fun reliable => ⟨reliable, rfl⟩⟩
  | some place =>
    dsimp only
    split
    next refused =>
      refine ⟨false, _, rfl, .refl path disk.tree, rfl, fun reliable => ?_⟩
      rw [nextFate, reliable] at refused
      cases refused
    next =>
      split
      next => exact ⟨true, disk, rfl, .refl path disk.tree, rfl, fun reliable => ⟨reliable, rfl⟩⟩
      next missing =>
        refine ⟨true, _, rfl, FileTree.changedAt_put writable [], ?_,
          fun reliable => ⟨reliable, rfl⟩⟩
        rw [FileTree.content?_put_self writable,
          FileTree.content?_of_absent (Bool.eq_false_of_not_eq_true missing)]

/-- Cutting off what comes after some bytes leaves the bytes. -/
theorem truncate_of_content? (held : disk.tree.content? path = some (bytes ++ rest)) :
    FileTree.ChangedAt path disk.tree (disk.truncate path bytes.length).tree ∧
      (disk.truncate path bytes.length).tree.content? path = some bytes := by
  rcases FileTree.read?_cases_of_content? held with found | ⟨none, empty⟩
  · obtain ⟨place, writable⟩ := FileTree.filePlace?_of_read? found
    rw [truncate, FileTree.change_of_read? writable found, List.take_left]
    exact ⟨FileTree.changedAt_put writable bytes, FileTree.content?_put_self writable bytes⟩
  · rw [truncate, FileTree.change_of_read?_none none]
    rw [empty] at held
    rw [(List.append_eq_nil_iff.mp empty).1]
    exact ⟨.refl path disk.tree, held⟩

/-- What is written after the bytes that a file holds is there as a whole, in part or not at all;
whether it succeeded says no more than that. -/
theorem append_of_content? (held : disk.tree.content? path = some bytes) (added : Bytes) :
    ∃ done after arrived, disk.append path added = (done, after) ∧
      FileTree.ChangedAt path disk.tree after.tree ∧
      after.tree.content? path = some (bytes ++ arrived) ∧ (done = true → arrived = added) := by
  rw [append, FileTree.getD_read?_of_content? held, writeAfter]
  cases writable : disk.tree.filePlace? path with
  | none =>
    refine ⟨false, disk, [], rfl, .refl path disk.tree, ?_, fun done => by cases done⟩
    rw [held, List.append_nil]
  | some place =>
    have changed (content : Bytes) := FileTree.changedAt_put writable content
    have holding (content : Bytes) := FileTree.content?_put_self writable content
    cases disk.nextFate with
    | done => exact ⟨true, _, added, rfl, changed _, holding _, fun _ => rfl⟩
    | refused =>
      refine ⟨false, _, [], rfl, .refl path disk.tree, ?_, fun done => by cases done⟩
      rw [held, List.append_nil]
    | cut count =>
      exact ⟨false, _, added.take count, rfl, changed _, holding _, fun done => by cases done⟩
    | unconfirmed => exact ⟨false, _, added, rfl, changed _, holding _, fun done => by cases done⟩

end Disk

end TokenLedger
