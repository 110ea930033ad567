/-
This file proves what making folders does to a tree, and that files which are written afterwards do
not undo it. Where a path leads depends on the folders alone, so a tree with the same folders has
the same paths. Making the folders of a path leaves everything where it was and adds at most
folders; the path then leads to a folder, and a path that leads to a folder needs no further ones.
-/

import Mathlib
import TokenLedger.Disk.Basic
import TokenLedger.Proofs.Data.Bindings

namespace TokenLedger.FileTree

variable {tree between after : FileTree} {place target : Place} {path : Path}

theorem holdsFolder_iff : tree.holdsFolder place = true ↔ tree.at? place = some .folder := by
  rw [holdsFolder, beq_iff_eq]

theorem at?_root (tree : FileTree) : tree.at? [] = some .folder :=
  if_pos rfl

theorem holdsFolder_root (tree : FileTree) : tree.holdsFolder [] = true :=
  holdsFolder_iff.mpr tree.at?_root

theorem ne_root_of_noFolder (noFolder : tree.holdsFolder place = false) : place ≠ [] := by
  rintro rfl
  rw [holdsFolder_root] at noFolder
  cases noFolder

/-! ### Paths -/

theorem follow?_cons (tree : FileTree) (place : Place) (name : String) (rest : Path) :
    tree.follow? place (name :: rest) =
      if tree.holdsFolder place then (Path.step? place name).bind (tree.follow? · rest)
      else none := by
  rw [follow?, List.foldlM_cons]
  split <;> rfl

theorem follow?_append (tree : FileTree) (place : Place) (first second : Path) :
    tree.follow? place (first ++ second) =
      (tree.follow? place first).bind (tree.follow? · second) := by
  rw [follow?, List.foldlM_append]
  rfl

/-- The way to a folder starts in a folder. -/
theorem holdsFolder_of_follow? (found : tree.follow? place path = some target)
    (folder : tree.holdsFolder target = true) : tree.holdsFolder place = true := by
  cases path with
  | nil =>
    obtain rfl := Option.some.inj found
    exact folder
  | cons name rest =>
    rw [follow?_cons] at found
    split at found
    next start => exact start
    next => cases found

section SameFolders

variable (same : after.holdsFolder = tree.holdsFolder)

include same

theorem follow?_of_sameFolders (place : Place) (path : Path) :
    after.follow? place path = tree.follow? place path := by
  simp only [follow?, same]

theorem place?_of_sameFolders (path : Path) : after.place? path = tree.place? path := by
  simp only [place?, follow?_of_sameFolders same]

end SameFolders

theorem sameFolders_put (content : Bytes) (noFolder : tree.holdsFolder place = false) :
    (tree.put place content).holdsFolder = tree.holdsFolder :=
  funext (holdsFolder_put content noFolder)

/-! ### Trees that keep the folders -/

/-- Every folder is still there. -/
def KeepsFolders (tree after : FileTree) : Prop :=
  ∀ place, tree.holdsFolder place = true → after.holdsFolder place = true

theorem keepsFolders_of_eq (same : after.holdsFolder = tree.holdsFolder) :
    tree.KeepsFolders after :=
  fun place folder => (congrFun same place).trans folder

theorem KeepsFolders.trans (first : tree.KeepsFolders between)
    (second : between.KeepsFolders after) : tree.KeepsFolders after :=
  fun place folder => second place (first place folder)

theorem keepsFolders_put (content : Bytes) (noFolder : tree.holdsFolder place = false) :
    tree.KeepsFolders (tree.put place content) :=
  keepsFolders_of_eq (sameFolders_put content noFolder)

/-- Every path still leads to where it led. -/
theorem KeepsFolders.follow? (keeps : tree.KeepsFolders after)
    (found : tree.follow? place path = some target) :
    after.follow? place path = some target := by
  induction path generalizing place with
  | nil => exact found
  | cons name rest inductionHypothesis =>
    rw [follow?_cons] at found ⊢
    split at found
    next start =>
      obtain ⟨next, step, further⟩ := Option.bind_eq_some_iff.mp found
      rw [if_pos (keeps place start), step]
      exact inductionHypothesis further
    next => cases found

/-! ### Making folders -/

/-- Everything is still where it was, and what has been added are folders. -/
def Grown (tree after : FileTree) : Prop :=
  ∀ place, after.at? place = tree.at? place ∨
    tree.at? place = none ∧ after.at? place = some .folder

theorem Grown.refl (tree : FileTree) : tree.Grown tree :=
  fun _ => .inl rfl

theorem Grown.trans (first : tree.Grown between) (second : between.Grown after) :
    tree.Grown after := by
  intro place
  rcases first place with kept | ⟨absent, made⟩
  · rcases second place with later | ⟨absent, made⟩
    · exact .inl (later.trans kept)
    · exact .inr ⟨kept ▸ absent, made⟩
  · rcases second place with later | ⟨still, _⟩
    · exact .inr ⟨absent, later.trans made⟩
    · rw [made] at still
      cases still

theorem Grown.at? (grown : tree.Grown after) {node : Node} (found : tree.at? place = some node) :
    after.at? place = some node := by
  rcases grown place with kept | ⟨absent, _⟩
  · exact kept.trans found
  · rw [found] at absent
    cases absent

theorem Grown.keepsFolders (grown : tree.Grown after) : tree.KeepsFolders after :=
  fun _ folder => holdsFolder_iff.mpr (grown.at? (holdsFolder_iff.mp folder))

/-- Every file is in both trees, at the same place and with the same bytes. -/
def SameFiles (tree after : FileTree) : Prop :=
  ∀ place content, after.at? place = some (.file content) ↔ tree.at? place = some (.file content)

theorem SameFiles.refl (tree : FileTree) : tree.SameFiles tree :=
  fun _ _ => Iff.rfl

/-- Making folders leaves the files as they are. -/
theorem Grown.sameFiles (grown : tree.Grown after) : tree.SameFiles after := by
  intro place content
  rcases grown place with same | ⟨absent, made⟩
  · rw [same]
  · rw [absent, made]
    exact ⟨nofun, nofun⟩

/-- What a path leads to is still there after folders have been made. -/
theorem Grown.exists? (grown : tree.Grown after) (there : tree.exists? path = true) :
    after.exists? path = true := by
  obtain ⟨node, found⟩ := Option.isSome_iff_exists.mp there
  obtain ⟨place, leads, held⟩ := Option.bind_eq_some_iff.mp found
  have still : after.place? path = some place := by
    rw [place?] at leads ⊢
    split at leads
    next spellable =>
      rw [if_pos spellable]
      exact grown.keepsFolders.follow? leads
    next => cases leads
  rw [FileTree.exists?, node?, still, Option.bind_some, grown.at? held, Option.isSome_some]

theorem at?_insert_folder (absent : tree.at? place = none) :
    FileTree.at? (tree.insert place .folder) place = some .folder := by
  have inner : place ≠ [] := by
    rintro rfl
    rw [at?_root] at absent
    cases absent
  rw [FileTree.at?, if_neg inner, SortedMap.get?_insert_self]

theorem grown_insert_folder (absent : tree.at? place = none) :
    tree.Grown (tree.insert place .folder) := by
  intro other
  by_cases same : other = place
  · subst same
    exact .inr ⟨absent, at?_insert_folder absent⟩
  · refine .inl ?_
    unfold FileTree.at?
    rw [SortedMap.get?_insert_other tree same]

/-- Folders that have been made are there, on top of all that was. -/
theorem makeFoldersFrom_eq_true (start : tree.holdsFolder place = true)
    (made : tree.makeFoldersFrom place path = (true, after)) :
    tree.Grown after ∧
      ∃ target, after.follow? place path = some target ∧ after.holdsFolder target = true := by
  induction path generalizing tree place with
  | nil =>
    obtain ⟨_, rfl⟩ := Prod.mk.inj made
    exact ⟨.refl _, place, rfl, start⟩
  | cons name rest inductionHypothesis =>
    rw [makeFoldersFrom] at made
    cases step : Path.step? place name with
    | none =>
      rw [step] at made
      cases made
    | some next =>
      rw [step] at made
      dsimp only at made
      cases there : tree.at? next with
      | none =>
        rw [there] at made
        have grown := grown_insert_folder there
        obtain ⟨later, target, found, reached⟩ :=
          inductionHypothesis (holdsFolder_iff.mpr (at?_insert_folder there)) made
        refine ⟨grown.trans later, target, ?_, reached⟩
        rw [follow?_cons, if_pos (later.keepsFolders _ (grown.keepsFolders _ start)), step]
        exact found
      | some node =>
        rw [there] at made
        cases node with
        | file content => cases made
        | folder =>
          obtain ⟨grown, target, found, reached⟩ :=
            inductionHypothesis (holdsFolder_iff.mpr there) made
          refine ⟨grown, target, ?_, reached⟩
          rw [follow?_cons, if_pos (grown.keepsFolders _ start), step]
          exact found

/-- Whether or not all of the folders could be made, only folders are added. -/
theorem grown_makeFoldersFrom (tree : FileTree) (place : Place) (path : Path) :
    tree.Grown (tree.makeFoldersFrom place path).2 := by
  induction path generalizing tree place with
  | nil => exact .refl tree
  | cons name rest inductionHypothesis =>
    rw [makeFoldersFrom]
    cases Path.step? place name with
    | none => exact .refl tree
    | some next =>
      dsimp only
      cases there : tree.at? next with
      | none => exact (grown_insert_folder there).trans (inductionHypothesis _ _)
      | some node =>
        cases node with
        | file content => exact .refl tree
        | folder => exact inductionHypothesis _ _

/-- On a path, the folders up to one that is there need not be made. -/
theorem makeFoldersFrom_append (found : tree.follow? place path = some target)
    (folder : tree.holdsFolder target = true) (names : Path) :
    tree.makeFoldersFrom place (path ++ names) = tree.makeFoldersFrom target names := by
  induction path generalizing place with
  | nil =>
    obtain rfl := Option.some.inj found
    rfl
  | cons name rest inductionHypothesis =>
    rw [follow?_cons] at found
    split at found
    next =>
      obtain ⟨next, step, further⟩ := Option.bind_eq_some_iff.mp found
      have there := holdsFolder_iff.mp (holdsFolder_of_follow? further folder)
      rw [List.cons_append, makeFoldersFrom, step]
      dsimp only
      rw [there]
      exact inductionHypothesis further
    next => cases found

/-- Nothing is to be made on a path that leads to a folder. -/
theorem makeFoldersFrom_of_follow? (found : tree.follow? place path = some target)
    (folder : tree.holdsFolder target = true) :
    tree.makeFoldersFrom place path = (true, tree) := by
  have reached := makeFoldersFrom_append found folder []
  rwa [List.append_nil, makeFoldersFrom] at reached

theorem grown_makeFolders (tree : FileTree) (path : Path) :
    tree.Grown (tree.makeFolders path).2 := by
  rw [makeFolders]
  split
  next => exact tree.grown_makeFoldersFrom [] _
  next => exact .refl tree

/-- The place of the folder that has been made. -/
theorem follow?_of_makeFolders (made : tree.makeFolders path = (true, after)) :
    path.trimmed.isSpellable = true ∧
      ∃ target, after.follow? [] path.trimmed = some target ∧ after.holdsFolder target = true := by
  rw [makeFolders] at made
  split at made
  next spellable =>
    exact ⟨spellable, (makeFoldersFrom_eq_true tree.holdsFolder_root made).2⟩
  next => cases made

theorem makeFolders_of_follow? (spellable : path.trimmed.isSpellable = true)
    (found : tree.follow? [] path.trimmed = some target) (folder : tree.holdsFolder target = true) :
    tree.makeFolders path = (true, tree) := by
  rw [makeFolders, if_pos spellable]
  exact makeFoldersFrom_of_follow? found folder

/-- Folders that have been made need not be made again, as long as they are there. -/
theorem makeFolders_again (made : tree.makeFolders path = (true, between))
    (keeps : between.KeepsFolders after) : after.makeFolders path = (true, after) := by
  obtain ⟨spellable, target, found, folder⟩ := follow?_of_makeFolders made
  exact makeFolders_of_follow? spellable (keeps.follow? found) (keeps target folder)

end TokenLedger.FileTree
