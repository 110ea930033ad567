/-
Paths. A path leads from the root of a tree to a place, one name at a time: into the folder or the
file of that name, except that an empty name and a dot stay, and two dots lead back to the folder
around. The root is its own folder around. The text of a path has slashes between its names.
-/

namespace TokenLedger

/-- A place in a tree: its name, and before it the names of the folders that it is in. -/
abbrev Place := List String

/-- The names on the way to a place. -/
abbrev Path := List String

namespace Path

/-! ### Texts -/

/-- The parts of a text between slashes. -/
def parts (chars : List Char) : List (List Char) :=
  chars.foldr (fun char parts =>
    if char = '/' then [] :: parts
    else
      match parts with
      | part :: rest => (char :: part) :: rest
      | [] => [[char]]) [[]]

/-- The path that a text spells. A slash at its front is an empty name, which stays at the root. -/
def ofText (text : String) : Path :=
  (parts text.toList).map String.ofList

/-- Whether a text spells a path from the root, wherever it is used. -/
def isAbsolute (text : String) : Bool :=
  text.toList.head? = some '/'

/-- The path to what a text names from within a folder. -/
def join (folder : Path) (text : String) : Path :=
  if isAbsolute text then ofText text else folder ++ ofText text

/-- The text of a path. -/
def text (path : Path) : String :=
  "/".intercalate path

/-- The greatest length of the text of a path, in bytes. -/
def longestText : Nat := 4095

/-- Whether the text of a path can be asked for: it is not too long, and has no null character. -/
def isSpellable (path : Path) : Bool :=
  path.text.utf8ByteSize ≤ longestText && !path.text.toList.contains '\x00'

/-! ### Names -/

/-- The greatest length of the name of a place, in bytes. -/
def longestName : Nat := 255

/-- Whether a name stays where it is. -/
def stays (name : String) : Bool :=
  name = "" || name = "."

/-- Where a name leads from a folder. Nothing has a name that is too long. -/
def step? (place : Place) (name : String) : Option Place :=
  if stays name then some place
  else if name = ".." then some place.dropLast
  else if longestName < name.utf8ByteSize then none
  else some (place ++ [name])

/-- A path without the names at its end that stay. -/
def trimmed (path : Path) : Path :=
  (path.reverse.dropWhile stays).reverse

/-- The name at the end of a path, if that is the name of a place. -/
def lastName? (path : Path) : Option String :=
  match (trimmed path).getLast? with
  | some name => if name = ".." then none else some name
  | none => none

/-- The path to the folder that the last name starts from. -/
def parent (path : Path) : Path := path.dropLast

end Path

end TokenLedger
