/-
This file proves what is listed of a folder: the names under which there is something in it, each
once. A folder that is not there is empty once it has been made, because making it adds only the
folders on its way; where everything is in a folder, nothing can have been below it before.
-/

import Mathlib
import TokenLedger.Proofs.Disk.Names

namespace TokenLedger.FileTree

variable {tree : FileTree} {path names : Path} {place home : Place} {name : String}

theorem place?_eq_some_iff : tree.place? path = some place ↔
    Path.isSpellable path = true ∧ tree.follow? [] path = some place := by
  rw [place?]
  split
  next spellable => simp [spellable]
  next hidden => simp [hidden]

/-- A path that leads somewhere leads to a folder before its last name. -/
theorem place?_of_place?_name {target : Place}
    (found : tree.place? (path ++ [name]) = some target) :
    ∃ home, tree.place? path = some home ∧ tree.LeadsTo path home := by
  obtain ⟨spellable, home, leads⟩ := leadsTo_of_place? found
  exact ⟨home, place?_eq_some_iff.mpr ⟨Path.isSpellable_of_append spellable, leads.follow⟩, leads⟩

theorem exists?_of_leadsTo (found : tree.place? path = some home) (leads : tree.LeadsTo path home) :
    tree.exists? path = true := by
  rw [exists?, node?, found, Option.bind_some, holdsFolder_iff.mp leads.folder, Option.isSome_some]

/-! ### The names in a folder -/

theorem mem_names_iff (found : tree.place? path = some home) :
    name ∈ tree.names path ↔ tree.at? (home ++ [name]) ≠ none := by
  have listed : name ∈ tree.names path ↔ home ++ [name] ∈ tree.keys := by
    rw [names, found]
    simp only [List.mem_filterMap, Option.ite_none_right_eq_some]
    constructor
    · rintro ⟨place, member, rfl, last⟩
      rwa [List.dropLast_append_getLast? name last]
    · intro member
      exact ⟨home ++ [name], member, List.dropLast_concat, List.getLast?_concat⟩
  rw [listed, SortedMap.mem_keys_iff, FileTree.at?, if_neg (List.append_ne_nil_of_right_ne_nil _
    (List.cons_ne_nil _ _)), Option.ne_none_iff_exists']

theorem nodup_names (tree : FileTree) (path : Path) : (tree.names path).Nodup := by
  rw [names]
  split
  next home _ =>
    refine List.pairwise_filterMap.mpr ((SortedMap.nodup_keys tree).imp ?_)
    intro first second distinct name firstNamed other secondNamed same
    simp only [Option.ite_none_right_eq_some] at firstNamed secondNamed
    apply distinct
    rw [← List.dropLast_append_getLast? name firstNamed.2, firstNamed.1, same,
      ← List.dropLast_append_getLast? other secondNamed.2, secondNamed.1]
  next => exact .nil

/-! ### Folders that are not there -/

/-- There is nothing at the end of the path, and a folder that is made there is empty. The second is
said as well because two dots after a missing name may lead to a folder that has been there. -/
structure Absent (tree : FileTree) (path : Path) : Prop where
  missing : tree.exists? path = false
  empty : (tree.makeFolders path).2.names path = []

/-- Whatever there is below the root is in a folder. -/
def Rooted (tree : FileTree) : Prop :=
  ∀ place name, tree.at? (place ++ [name]) ≠ none → tree.holdsFolder place = true

/-- Everything on the way to a place is a folder. -/
theorem Rooted.holdsFolder_of_prefix (rooted : tree.Rooted) {further : Path}
    (there : tree.at? (place ++ further) ≠ none) (inner : further ≠ []) :
    tree.holdsFolder place = true := by
  induction further using List.reverseRecOn with
  | nil => exact absurd rfl inner
  | append_singleton further name inductionHypothesis =>
    rw [← List.append_assoc] at there
    have around := rooted _ _ there
    rcases eq_or_ne further [] with rfl | inner
    · rwa [List.append_nil] at around
    · refine inductionHypothesis (fun nothing => ?_) inner
      rw [holdsFolder_iff.mp around] at nothing
      cases nothing

/-- Making the folders of plain names leaves what is deeper than they. -/
theorem at?_makeFoldersFrom_of_deeper (plain : ∀ name ∈ names, Path.Plain name) {other : Place}
    (deeper : (place ++ names).length < other.length) :
    (tree.makeFoldersFrom place names).2.at? other = tree.at? other := by
  induction names generalizing tree place with
  | nil => rfl
  | cons name rest inductionHypothesis =>
    obtain ⟨first, others⟩ := List.forall_mem_cons.mp plain
    rw [makeFoldersFrom]
    cases step : Path.step? place name with
    | none => rfl
    | some next =>
      obtain rfl := first.eq_of_step? step
      have still : (place ++ [name] ++ rest).length < other.length := by
        rwa [List.append_assoc, List.singleton_append]
      have apart : other ≠ place ++ [name] := by
        rintro rfl
        simp only [List.length_append, List.length_cons, List.length_nil] at still
        omega
      dsimp only
      cases there : tree.at? (place ++ [name]) with
      | none =>
        refine (inductionHypothesis others still).trans ?_
        unfold FileTree.at?
        rw [SortedMap.get?_insert_other tree apart]
      | some node =>
        cases node with
        | file content => rfl
        | folder => exact inductionHypothesis others still

/-- A path leads through plain names wherever it does so in a larger tree, if there are folders. -/
theorem follow?_of_folders {after : FileTree} {target : Place}
    (plain : ∀ name ∈ names, Path.Plain name)
    (found : after.follow? place names = some target)
    (folders : ∀ earlier further, names = earlier ++ further → further ≠ [] →
      tree.holdsFolder (place ++ earlier) = true) :
    tree.follow? place names = some target := by
  induction names generalizing place with
  | nil => exact found
  | cons name rest inductionHypothesis =>
    obtain ⟨first, others⟩ := List.forall_mem_cons.mp plain
    have start : tree.holdsFolder place = true := by
      have here := folders [] (name :: rest) rfl (List.cons_ne_nil _ _)
      rwa [List.append_nil] at here
    rw [follow?_cons] at found ⊢
    rw [if_pos start]
    split at found
    next =>
      obtain ⟨next, step, onwards⟩ := Option.bind_eq_some_iff.mp found
      obtain rfl := first.eq_of_step? step
      rw [step, Option.bind_some]
      refine inductionHypothesis others onwards fun earlier further split inner => ?_
      rw [List.append_assoc, List.singleton_append]
      exact folders (name :: earlier) further (by rw [split, List.cons_append]) inner
    next => cases found

theorem LeadsTo.at?_makeFolders_of_deeper (leads : tree.LeadsTo path home)
    (plain : ∀ name ∈ names, Path.Plain name) (further : names ≠ []) {other : Place}
    (deeper : (home ++ names).length < other.length) :
    (tree.makeFolders (path ++ names)).2.at? other = tree.at? other := by
  obtain ⟨earlier, last, rfl⟩ := (List.eq_nil_or_concat' names).resolve_left further
  have trimmed : Path.trimmed (path ++ (earlier ++ [last])) = path ++ (earlier ++ [last]) := by
    rw [← List.append_assoc]
    exact (plain last (List.mem_append_right _ List.mem_cons_self)).trimmed _
  rw [makeFolders, trimmed]
  split
  next =>
    rw [makeFoldersFrom_append leads.follow leads.folder]
    exact at?_makeFoldersFrom_of_deeper plain deeper
  next => rfl

/-- A folder that is named from one that is there, and is not there itself, is absent. -/
theorem Rooted.absent (rooted : tree.Rooted) (leads : tree.LeadsTo path home)
    (plain : ∀ name ∈ names, Path.Plain name) (missing : tree.exists? (path ++ names) = false) :
    tree.Absent (path ++ names) := by
  refine ⟨missing, ?_⟩
  have still := leads.keep (tree.grown_makeFolders (path ++ names)).keepsFolders
  cases found : (tree.makeFolders (path ++ names)).2.place? (path ++ names) with
  | none => rw [FileTree.names, found]
  | some target =>
    obtain rfl := still.eq_of_place? plain found
    refine List.eq_nil_iff_forall_not_mem.mpr fun name listed => ?_
    -- Something below the folder would have to be in it before it was made.
    suffices there : tree.exists? (path ++ names) = true by
      rw [missing] at there
      cases there
    obtain ⟨spellable, onwards⟩ := place?_eq_some_iff.mp found
    rw [still.follow?_append] at onwards
    have reached : tree.follow? home names = some (home ++ names) ∧
        tree.holdsFolder (home ++ names) = true := by
      rcases eq_or_ne names [] with rfl | further
      · rw [List.append_nil]
        exact ⟨rfl, leads.folder⟩
      · have below := (mem_names_iff found).mp listed
        rw [leads.at?_makeFolders_of_deeper plain further (by simp)] at below
        refine ⟨follow?_of_folders plain onwards
          fun earlier more split _ => ?_, rooted _ _ below⟩
        rw [split, List.append_assoc, List.append_assoc, ← List.append_assoc] at below
        exact rooted.holdsFolder_of_prefix below (List.append_ne_nil_of_right_ne_nil _
          (List.cons_ne_nil _ _))
    have way := (leads.follow?_append names).trans reached.1
    exact exists?_of_leadsTo (place?_eq_some_iff.mpr ⟨spellable, way⟩) ⟨way, reached.2⟩

end TokenLedger.FileTree
