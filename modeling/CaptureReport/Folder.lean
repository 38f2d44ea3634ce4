import CaptureReport.Text.Pieces

/-!
# Folders

The files that a command works on, and how paths lead to them.

A **spot** is a place in the tree of files: the names on the way to it from the root. A **path** is
a text that is walked name by name, from the root if it starts with a slash, and else from the
folder's **home**, the directory that the command is run in. An empty name and a dot stay at the
spot, two dots lead up, and every other name leads down. Each of them can only be taken at a
directory; a path that ends in a slash therefore asks for one.

A file can have several names. One of them is its spot, and each of the others is a **link**, which
leads on to that spot as soon as a path comes to it. Two paths thus mean the same file exactly if
they lead to the same spot, however they are spelled.

A directory is there if a file or a link lies below it, if the home does, or if it is given as one.
What else lies outside the home is not known unless it is given.

## Main results

* `Folder.find_store`: a file that has been stored is found with the bytes it was stored with.
-/

namespace CaptureReport

/-- A place in the tree of files, by the names that lead to it from the root. -/
abbrev Spot := List String

namespace Spot

def root : Spot := []

/-- The directory that a command is run in if no other one is given. -/
def here : Spot := ["tmp", "work"]

/-- The spot that two dots lead to. Nothing is above the root. -/
def up (spot : Spot) : Spot :=
  spot.dropLast

/-- The spot that a name leads to. -/
def step (spot : Spot) (name : String) : Spot :=
  if name = "" ∨ name = "." then spot
  else if name = ".." then spot.up
  else spot ++ [name]

/-- The path from the root to a spot. -/
def path (spot : Spot) : String :=
  "/" ++ "/".intercalate spot

end Spot

namespace Path

/-- The most bytes in a name. -/
def nameLimit : Nat := 255

/-- The most bytes in a path. -/
def lengthLimit : Nat := 4095

/-- Whether a path can be walked at all. -/
def isUsable (path : String) : Bool :=
  path.utf8ByteSize ≤ lengthLimit && !path.toList.contains '\x00'

/-- The names of a path, one between each two slashes. -/
def names (path : String) : List String :=
  Text.pieces '/' path

/-- Whether a path names what it leads to, so that it can be created under that name. -/
def hasName (path : String) : Bool :=
  (names path).getLast?.any fun name => name ≠ "" && name ≠ "." && name ≠ ".."

/-- The **extension** of a path: what follows the last dot of its last name, empty names and single
dots apart. A name that has its only dot in front has none. -/
def extension? (path : String) : Option String := do
  let name ← ((names path).filter fun name => name ≠ "" && name ≠ ".").getLast?
  guard (name ≠ "..")
  let pieces := Text.pieces '.' name
  guard (2 ≤ pieces.length)
  guard (pieces.dropLast ≠ [""])
  pieces.getLast?

end Path

/-- Files by their spots, and directories and links beside them. -/
structure Folder where
  /-- The directory that paths without a slash in front are walked from. -/
  home : Spot := .here
  files : List (Spot × List UInt8) := []
  /-- Directories in which no file needs to be. -/
  directories : List Spot := []
  /-- Links, each with the spot that it leads to in the end. -/
  links : List (Spot × Spot) := []

/-- What a path leads to. -/
inductive Found
  | absent
  /-- The path cannot be walked: it needs a directory where a file is, or it or one of its names is
  too long. -/
  | blocked
  | directory
  | file (content : List UInt8)
  deriving DecidableEq, Repr

namespace Folder

/-- The content of the file at a spot. -/
def find (folder : Folder) (spot : Spot) : Option (List UInt8) :=
  folder.files.lookup spot

/-- The folder with a file in place of what was at the spot. -/
def store (folder : Folder) (spot : Spot) (content : List UInt8) : Folder :=
  { folder with files := (spot, content) :: folder.files.filter fun file => file.1 ≠ spot }

/-- Whether there is a directory at a spot. -/
def isDirectory (folder : Folder) (spot : Spot) : Bool :=
  spot.isPrefixOf folder.home || folder.directories.contains spot ||
    (folder.files.map Prod.fst ++ folder.links.map Prod.fst).any fun below =>
      spot.isPrefixOf below && spot.length < below.length

/-- What is at a spot. -/
def status (folder : Folder) (spot : Spot) : Found :=
  match folder.find spot with
  | some content => .file content
  | none => if folder.isDirectory spot then .directory else .absent

/-- Whether a file can be created at a spot, or is there to be emptied. -/
def canCreate (folder : Folder) (spot : Spot) : Bool :=
  match folder.status spot with
  | .file _ => true
  | .absent => folder.status spot.up = .directory
  | .directory | .blocked => false

/-! ### Paths -/

/-- The spot that a link at a spot leads to, or the spot itself. -/
def resolve (folder : Folder) (spot : Spot) : Spot :=
  (folder.links.lookup spot).getD spot

/-- The spot that a name leads to. -/
def step (folder : Folder) (spot : Spot) (name : String) : Spot :=
  folder.resolve (spot.step name)

/-- The spot that a path starts from. -/
def start (folder : Folder) (path : String) : Spot :=
  if path.startsWith "/" then .root else folder.home

/-- The spot that a path leads to if nothing is in its way. -/
def spot (folder : Folder) (path : String) : Spot :=
  (Path.names path).foldl folder.step (folder.start path)

/-- The spot that names lead to, or what they lead to in place of one. -/
def walk (folder : Folder) : List String → Spot → Except Found Spot
  | [], spot => .ok spot
  | name :: rest, spot =>
    match folder.status spot with
    | .directory =>
      if Path.nameLimit < name.utf8ByteSize then .error .blocked
      else folder.walk rest (folder.step spot name)
    | .file _ | .blocked => .error .blocked
    | .absent => .error .absent

/-- What a path leads to. The empty path leads nowhere. -/
def look (folder : Folder) (path : String) : Found :=
  if path.isEmpty then .absent
  else if !Path.isUsable path then .blocked
  else
    match folder.walk (Path.names path) (folder.start path) with
    | .error found => found
    | .ok spot => folder.status spot

/-- The spot at which a path creates a file, or empties one that is there. -/
def target? (folder : Folder) (path : String) : Option Spot :=
  if !Path.isUsable path || !Path.hasName path then none
  else
    match folder.walk (Path.names path) (folder.start path) with
    | .error _ => none
    | .ok spot => if folder.canCreate spot then some spot else none

/-! ### Files -/

/-- The files that are not in another folder with the same bytes. -/
def changesFrom (folder before : Folder) : List (Spot × List UInt8) :=
  folder.files.filter fun (spot, content) => before.find spot ≠ some content

/-- A stored file is found, and no other file is touched by storing it. -/
theorem find_store (folder : Folder) (spot other : Spot) (content : List UInt8) :
    (folder.store spot content).find other =
      if other = spot then some content else folder.find other := by
  unfold find store
  rw [List.lookup_cons]
  by_cases h : other = spot
  · simp [h]
  · have hne : (other == spot) = false := by simpa using h
    simp only [hne, h, if_false]
    induction folder.files with
    | nil => rfl
    | cons file files ih =>
      by_cases hf : file.1 = spot
      · have hfo : (other == file.1) = false := by simpa [hf] using h
        rw [List.filter_cons_of_neg (by simp [hf]), List.lookup_cons, hfo, ih]
      · rw [List.filter_cons_of_pos (by simp [hf]), List.lookup_cons, List.lookup_cons, ih]

end Folder

/-- The spot of a path where there are no links, and the command is run in the usual place. -/
def Path.spot (path : String) : Spot :=
  ({} : Folder).spot path

/-- The folder with some files, by path. -/
def Folder.ofFiles (files : List (String × List UInt8)) : Folder where
  files := files.map fun (path, content) => (Path.spot path, content)

end CaptureReport
