/-
This file proves where paths lead that go on from a folder by plain names. A plain name leads into
the folder, so that the names are added to the place of the folder; making a folder by a plain name
changes nothing but the place of that folder.
-/

import Mathlib
import TokenLedger.Proofs.Disk.Files

namespace TokenLedger

/-! ### Plain names -/

namespace Path

variable {place next : Place} {name : String} {path : Path}

/-- The name leads into the folder from which it starts. -/
structure Plain (name : String) : Prop where
  moves : stays name = false
  inwards : name ≠ ".."

instance (name : String) : Decidable (Plain name) :=
  decidable_of_iff (stays name = false ∧ name ≠ "..")
    ⟨fun ⟨moves, inwards⟩ => ⟨moves, inwards⟩, fun plain => ⟨plain.1, plain.2⟩⟩

theorem Plain.step? (plain : Plain name) (place : Place) :
    step? place name =
      if longestName < name.utf8ByteSize then none else some (place ++ [name]) := by
  have moves : ¬ stays name = true := Bool.eq_false_iff.mp plain.moves
  rw [Path.step?, if_neg moves, if_neg plain.inwards]

theorem Plain.eq_of_step? (plain : Plain name) (leads : Path.step? place name = some next) :
    next = place ++ [name] := by
  rw [plain.step?] at leads
  split at leads
  next => cases leads
  next => exact (Option.some.inj leads).symm

theorem Plain.trimmed (plain : Plain name) (path : Path) :
    Path.trimmed (path ++ [name]) = path ++ [name] := by
  rw [Path.trimmed, List.reverse_append, List.reverse_singleton, List.singleton_append,
    List.dropWhile_cons_of_neg (Bool.eq_false_iff.mp plain.moves), List.reverse_cons,
    List.reverse_reverse]

/-- The text of a path can be asked for if the text of a longer one can. -/
theorem isSpellable_of_append {names : Path} (spellable : isSpellable (path ++ names) = true) :
    isSpellable path = true := by
  rcases eq_or_ne path [] with rfl | nonempty
  · decide
  rcases eq_or_ne names [] with rfl | further
  · rwa [List.append_nil] at spellable
  rw [isSpellable, text, String.intercalate_append_of_ne_nil nonempty further] at spellable
  rw [isSpellable, text]
  simp only [String.utf8ByteSize_append, String.toList_append, Bool.and_eq_true, decide_eq_true_eq,
    Bool.not_eq_true', List.contains_eq_mem, List.mem_append, decide_eq_false_iff_not,
    not_or] at spellable ⊢
  exact ⟨by omega, spellable.2.1.1⟩

theorem text_concat (path : Path) (name : String) :
    text (path ++ [name]) = if path = [] then name else text path ++ "/" ++ name := by
  split
  next empty =>
    rw [empty]
    exact String.intercalate_singleton
  next nonempty =>
    rw [text, String.intercalate_append_of_ne_nil nonempty (List.cons_ne_nil _ _), text,
      String.intercalate_singleton]

/-- The text of a path can still be asked for when its last name is replaced by one that is not
longer. -/
theorem isSpellable_of_name {first second : String}
    (spellable : isSpellable (path ++ [first]) = true)
    (short : second.utf8ByteSize ≤ first.utf8ByteSize) (clean : '\x00' ∉ second.toList) :
    isSpellable (path ++ [second]) = true := by
  rw [isSpellable, text_concat] at spellable ⊢
  split at spellable
  next empty =>
    simp only [if_pos empty, Bool.and_eq_true, decide_eq_true_eq, Bool.not_eq_true',
      List.contains_eq_mem, decide_eq_false_iff_not] at spellable ⊢
    exact ⟨short.trans spellable.1, clean⟩
  next nonempty =>
    simp only [if_neg nonempty, String.utf8ByteSize_append, String.toList_append,
      Bool.and_eq_true, decide_eq_true_eq, Bool.not_eq_true', List.contains_eq_mem,
      List.mem_append, decide_eq_false_iff_not, not_or] at spellable ⊢
    exact ⟨by omega, spellable.2.1, clean⟩

end Path

namespace FileTree

variable {tree after : FileTree} {place target : Place} {path names : Path} {name : String}

/-- Plain names are added to the place from which they lead. -/
theorem eq_of_follow?_plain (plain : ∀ name ∈ names, Path.Plain name)
    (found : tree.follow? place names = some target) : target = place ++ names := by
  induction names generalizing place with
  | nil => exact (Option.some.inj found).symm.trans (List.append_nil place).symm
  | cons name rest inductionHypothesis =>
    obtain ⟨first, others⟩ := List.forall_mem_cons.mp plain
    rw [follow?_cons] at found
    split at found
    next =>
      obtain ⟨next, step, further⟩ := Option.bind_eq_some_iff.mp found
      obtain rfl := first.eq_of_step? step
      rw [inductionHypothesis others further, List.append_assoc, List.singleton_append]
    next => cases found

/-! ### Paths that go on from a folder -/

/-- The path leads to the place of a folder. -/
structure LeadsTo (tree : FileTree) (path : Path) (place : Place) : Prop where
  follow : tree.follow? [] path = some place
  folder : tree.holdsFolder place = true

namespace LeadsTo

theorem keep (leads : tree.LeadsTo path place) (keeps : tree.KeepsFolders after) :
    after.LeadsTo path place :=
  ⟨keeps.follow? leads.follow, keeps place leads.folder⟩

theorem follow?_append (leads : tree.LeadsTo path place) (names : Path) :
    tree.follow? [] (path ++ names) = tree.follow? place names := by
  rw [FileTree.follow?_append, leads.follow, Option.bind_some]

/-- A path that goes on by plain names leads to the place with these names. -/
theorem eq_of_place? (leads : tree.LeadsTo path place) (plain : ∀ name ∈ names, Path.Plain name)
    (found : tree.place? (path ++ names) = some target) : target = place ++ names := by
  rw [FileTree.place?] at found
  split at found
  next => exact eq_of_follow?_plain plain (leads.follow?_append names ▸ found)
  next => cases found

/-- A path that goes on by one name depends on nothing but the place of the folder. -/
theorem place?_name (leads : tree.LeadsTo path place) (name : String) :
    tree.place? (path ++ [name]) =
      if Path.isSpellable (path ++ [name]) then Path.step? place name else none := by
  rw [FileTree.place?, leads.follow?_append, follow?_cons, if_pos leads.folder]
  cases Path.step? place name <;> rfl

/-- A path that goes on by one plain name leads to the place with this name. -/
theorem place?_plain (leads : tree.LeadsTo path place) (plain : Path.Plain name)
    (short : ¬ Path.longestName < name.utf8ByteSize)
    (spellable : Path.isSpellable (path ++ [name]) = true) :
    tree.place? (path ++ [name]) = some (place ++ [name]) := by
  rw [leads.place?_name, if_pos spellable, plain.step?, if_neg short]

/-- What there is under a name in a folder stays the same if its place does not change. -/
theorem node?_name (leads : tree.LeadsTo path place) (still : after.LeadsTo path place)
    (plain : Path.Plain name) (same : after.at? (place ++ [name]) = tree.at? (place ++ [name])) :
    after.node? (path ++ [name]) = tree.node? (path ++ [name]) := by
  rw [node?, node?, leads.place?_name, still.place?_name, plain.step?]
  split
  next =>
    split
    next => rfl
    next => exact same
  next => rfl

end LeadsTo

theorem content?_of_node? (same : after.node? path = tree.node? path) :
    after.content? path = tree.content? path := by
  rw [content?, content?, exists?, exists?, read?, read?, same]

/-- A path that leads somewhere has a path to a folder before its last name. -/
theorem leadsTo_of_place? (found : tree.place? (path ++ [name]) = some target) :
    Path.isSpellable (path ++ [name]) = true ∧ ∃ home, tree.LeadsTo path home := by
  rw [FileTree.place?] at found
  split at found
  next spellable =>
    rw [FileTree.follow?_append] at found
    obtain ⟨home, leads, last⟩ := Option.bind_eq_some_iff.mp found
    rw [follow?_cons] at last
    split at last
    next folder => exact ⟨spellable, home, leads, folder⟩
    next => cases last
  next => cases found

/-- There is no file at any place in a folder that has none. -/
theorem LeadsTo.ne_file_of_filesBelow (leads : tree.LeadsTo path place)
    (spellable : Path.isSpellable path = true) (vacant : tree.filesBelow path = [])
    (names : Path) (content : Bytes) : tree.at? (place ++ names) ≠ some (.file content) := by
  intro held
  have inner : place ++ names ≠ [] := by
    intro root
    rw [root, at?_root] at held
    cases held
  rw [FileTree.at?, if_neg inner] at held
  rw [filesBelow, FileTree.place?, if_pos spellable, leads.follow] at vacant
  have none := List.filterMap_eq_nil_iff.mp vacant _ (SortedMap.mem_entries_iff.mpr held)
  rw [if_pos (List.isPrefixOf_iff_prefix.mpr (List.prefix_append place names))] at none
  cases none

/-! ### Making a folder in a folder -/

/-- Making a folder in a folder changes nothing but its place. -/
theorem LeadsTo.at?_makeFolders_name (leads : tree.LeadsTo path place) (plain : Path.Plain name)
    {other : Place} (apart : other ≠ place ++ [name]) :
    (tree.makeFolders (path ++ [name])).2.at? other = tree.at? other := by
  rw [makeFolders, plain.trimmed]
  split
  next =>
    rw [makeFoldersFrom_append leads.follow leads.folder, makeFoldersFrom, plain.step?]
    split
    next => rfl
    next _ next step =>
      split at step
      next => cases step
      next =>
        obtain rfl := Option.some.inj step
        cases there : tree.at? (place ++ [name]) with
        | none =>
          dsimp only
          unfold FileTree.at?
          rw [makeFoldersFrom, SortedMap.get?_insert_other tree apart]
        | some node => cases node <;> rfl
  next => rfl

end FileTree

end TokenLedger
