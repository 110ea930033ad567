/-
Trees of files. A tree says for each place whether there is a folder or a file, and what the file
holds. The root is a folder that is always there; a file is only put into a folder that is there,
and never in the place of a folder. A path leads to a place through folders that are there; putting
a file changes where no path leads, and what is there at its own place only.
-/

import TokenLedger.Data.SortedMap
import TokenLedger.Disk.Path

namespace TokenLedger

/-- What is at a place. -/
inductive Node where
  | folder
  | file (content : Bytes)
  deriving DecidableEq, Repr

/-- What a file holds. -/
def Node.content? : Node → Option Bytes
  | .folder => none
  | .file content => some content

/-- The folders and files below a root. -/
abbrev FileTree := SortedMap Place Node

namespace FileTree

/-- The tree with nothing below its root. -/
def empty : FileTree := SortedMap.empty

/-! ### Places -/

/-- What is at a place. -/
def at? (tree : FileTree) (place : Place) : Option Node :=
  if place = [] then some .folder else tree.get? place

/-- Whether there is a folder at a place. -/
def holdsFolder (tree : FileTree) (place : Place) : Bool :=
  tree.at? place == some .folder

/-- Put a file at a place. -/
def put (tree : FileTree) (place : Place) (content : Bytes) : FileTree :=
  tree.insert place (.file content)

/-- The place that a path leads to from another. Each name starts from a folder that is there; at
the end of the path there need not be anything. -/
def follow? (tree : FileTree) (place : Place) (path : Path) : Option Place :=
  path.foldlM (fun place name => if tree.holdsFolder place then Path.step? place name else none)
    place

/-- The place that a path leads to. -/
def place? (tree : FileTree) (path : Path) : Option Place :=
  if path.isSpellable then tree.follow? [] path else none

/-! ### What is there -/

/-- What is at the end of a path. -/
def node? (tree : FileTree) (path : Path) : Option Node :=
  (tree.place? path).bind tree.at?

/-- What a text names from within a folder. An empty text names nothing. -/
def find? (tree : FileTree) (folder : Path) (text : String) : Option Node := do
  let path := Path.ofText text
  if text = "" || !path.isSpellable then none
  else
    let start ← if Path.isAbsolute text then some [] else tree.place? folder
    tree.at? (← tree.follow? start path)

/-- Whether there is anything at the end of a path. -/
def exists? (tree : FileTree) (path : Path) : Bool :=
  (tree.node? path).isSome

/-- Whether there is a folder at the end of a path. -/
def isFolder (tree : FileTree) (path : Path) : Bool :=
  tree.node? path == some .folder

/-- What the file at the end of a path holds. -/
def read? (tree : FileTree) (path : Path) : Option Bytes :=
  (tree.node? path).bind Node.content?

/-- The names of what is in a folder, in ascending order. -/
def names (tree : FileTree) (path : Path) : List String :=
  match tree.place? path with
  | some folder =>
    tree.keys.filterMap fun place => if place.dropLast = folder then place.getLast? else none
  | none => []

/-- The files below the end of a path with what they hold, in the order of their places from there
on. -/
def filesBelow (tree : FileTree) (path : Path) : List (Place × Bytes) :=
  match tree.place? path with
  | some folder =>
    tree.entries.filterMap fun entry =>
      if folder.isPrefixOf entry.1 then
        entry.2.content?.map fun content => (entry.1.drop folder.length, content)
      else none
  | none => []

/-! ### Changes -/

/-- Make every folder on a path, from a folder on: whether they are all there. A file on the way, or
a name that is too long, ends it, and the folders before that have been made. -/
def makeFoldersFrom (tree : FileTree) (place : Place) : Path → Bool × FileTree
  | [] => (true, tree)
  | name :: rest =>
    match Path.step? place name with
    | none => (false, tree)
    | some next =>
      match tree.at? next with
      | some .folder => makeFoldersFrom tree next rest
      | some (.file _) => (false, tree)
      | none => makeFoldersFrom (tree.insert next .folder) next rest

/-- Make a folder and those on the way to it: whether they are all there. -/
def makeFolders (tree : FileTree) (path : Path) : Bool × FileTree :=
  let path := path.trimmed
  if path.isSpellable then tree.makeFoldersFrom [] path else (false, tree)

/-- The place of a file that is written at the end of a path. -/
def filePlace? (tree : FileTree) (path : Path) : Option Place :=
  match tree.place? path with
  | some place => if tree.holdsFolder place then none else some place
  | none => none

/-- Change what a file holds, if it is there. -/
def change (tree : FileTree) (path : Path) (change : Bytes → Bytes) : FileTree :=
  match tree.filePlace? path, tree.read? path with
  | some place, some content => tree.put place (change content)
  | _, _ => tree

/-- Remove what is at the end of a path and everything below it. -/
def remove (tree : FileTree) (path : Path) : FileTree :=
  match tree.place? path with
  | some removed => (tree.keys.filter removed.isPrefixOf).foldl SortedMap.erase tree
  | none => tree

/-! ### What a file that has been put changes -/

theorem at?_put_self {tree : FileTree} {place : Place} (content : Bytes) (inner : place ≠ []) :
    (tree.put place content).at? place = some (.file content) := by
  simp [at?, put, inner]

theorem at?_put_other {tree : FileTree} {place other : Place} (content : Bytes)
    (distinct : other ≠ place) : (tree.put place content).at? other = tree.at? other := by
  simp [at?, put, SortedMap.get?_insert_other tree distinct]

/-- A file that is not put in the place of a folder makes and takes away no folder. -/
theorem holdsFolder_put {tree : FileTree} {place : Place} (content : Bytes)
    (noFolder : tree.holdsFolder place = false) (other : Place) :
    (tree.put place content).holdsFolder other = tree.holdsFolder other := by
  have inner : place ≠ [] := by
    rintro rfl
    simp [holdsFolder, at?] at noFolder
  by_cases same : other = place
  · subst same
    rw [noFolder, holdsFolder, at?_put_self content inner]
    rfl
  · rw [holdsFolder, at?_put_other content same, holdsFolder]

theorem follow?_put {tree : FileTree} {place : Place} (content : Bytes)
    (noFolder : tree.holdsFolder place = false) (start : Place) (path : Path) :
    (tree.put place content).follow? start path = tree.follow? start path := by
  simp only [follow?, holdsFolder_put content noFolder]

/-- Every path leads on to where it led. -/
theorem place?_put {tree : FileTree} {place : Place} (content : Bytes)
    (noFolder : tree.holdsFolder place = false) (path : Path) :
    (tree.put place content).place? path = tree.place? path := by
  simp only [place?, follow?_put content noFolder]

theorem filePlace?_eq_some_iff {tree : FileTree} {path : Path} {place : Place} :
    tree.filePlace? path = some place ↔
      tree.place? path = some place ∧ tree.holdsFolder place = false := by
  unfold filePlace?
  split <;> simp_all
  grind

/-- A file that has been written holds what was written. -/
theorem read?_put_self {tree : FileTree} {path : Path} {place : Place} (content : Bytes)
    (writable : tree.filePlace? path = some place) :
    (tree.put place content).read? path = some content := by
  obtain ⟨found, noFolder⟩ := filePlace?_eq_some_iff.1 writable
  have inner : place ≠ [] := by
    rintro rfl
    simp [holdsFolder, at?] at noFolder
  simp [read?, node?, place?_put content noFolder, found, at?_put_self content inner,
    Node.content?]

end FileTree

end TokenLedger
