import MemoryWatch.FileTree.Node
import MemoryWatch.Path
import MemoryWatch.SystemError

/-!
# File trees

A file tree holds directories, regular files, symbolic links and a few devices.
Looking up a path walks the tree name by name: links are followed up to a
limit, a dot stays, two dots go up, and everything that is not the last name
has to be a directory.

A walk remembers the way that it has come, so that going up needs no search.
It may begin in a directory that has been taken away: such a directory is empty
and stays so, but the one above it can still be reached.
-/

namespace MemoryWatch

/-- A tree of files and the directory in which relative paths begin. -/
structure FileTree where
  root : Node
  workingDirectory : Location

namespace FileTree

/-- The most bytes of one name. -/
def longestName : Nat := 255

/-- The most bytes of a path. -/
def longestPath : Nat := 4095

/-- The most links that the walk along one path follows. -/
def linkLimit : Nat := 40

/-- The node at a location. -/
def nodeAt (tree : FileTree) (location : Location) : Option Node :=
  tree.root.at? location

/-- Where a walk has come to: a node, and the names on the way to it from the
root, the last one first, each with the directory in which it was found. -/
structure Visit where
  node : Node
  way : List (Name × Node) := []
  /-- How many of the last names on the way are not in the tree any more. -/
  gone : Nat := 0

namespace Visit

/-- The location of a visited node. -/
def location (visit : Visit) : Location :=
  (visit.way.map Prod.fst).reverse

/-- Go into a child. -/
def enter (visit : Visit) (name : Name) (child : Node) : Visit where
  node := child
  way := (name, visit.node) :: visit.way

/-- Go into a directory that has been taken away. -/
def enterGone (visit : Visit) (name : Name) : Visit where
  node := .directory []
  way := (name, visit.node) :: visit.way
  gone := visit.gone + 1

/-- Go up.  The root is above itself. -/
def parent (visit : Visit) : Visit :=
  match visit.way with
  | [] => visit
  | (_, above) :: way => { node := above, way, gone := visit.gone - 1 }

/-- Go down along a location.  From where it leads no further, the directories
are gone. -/
def down (visit : Visit) : Location → Visit
  | [] => visit
  | name :: rest =>
    match visit.node.child? name with
    | none => (visit.enterGone name).down rest
    | some child => (visit.enter name child).down rest

end Visit

/-- The root of a tree. -/
def top (tree : FileTree) : Visit :=
  { node := tree.root }

/-- Where a walk ends: at a node, or at a free name in a directory. -/
inductive Place where
  | found (visit : Visit)
  | vacant (location : Location)

/-- Take one name from a place, without following a link found there.  Nothing
can be made in a directory that is gone. -/
def descend (here : Visit) (name : Name) : Except SystemError Place :=
  if !here.node.isDirectory then .error .notDirectory
  else if name = [] ∨ name = [Path.dot] then .ok (.found here)
  else if name = [Path.dot, Path.dot] then .ok (.found here.parent)
  else if here.gone ≠ 0 then .error .missing
  else if longestName < name.length then .error .nameTooLong
  else
    match here.node.child? name with
    | none => .ok (.vacant (here.location ++ [name]))
    | some child => .ok (.found (here.enter name child))

/-- The names of a path, without the empty parts between its slashes. -/
def plainNames (bytes : List UInt8) : List Name :=
  (Path.segments bytes).filter (· ≠ [])

/-- The names along which a path is walked.  A slash at the end asks for a
directory, and an empty name after it stands for that. -/
def walkNames (bytes : List UInt8) : List Name :=
  if bytes.getLast? = some Path.slash ∧ plainNames bytes ≠ [] then
    plainNames bytes ++ [[]]
  else plainNames bytes

/-- What is wanted with the last name of a path. -/
inductive Ending where
  /-- The node that it names in the end. -/
  | followed
  /-- The node that has the name, even if it is a link. -/
  | kept
  /-- A file that it names in the end, or that can be made there. -/
  | made
  deriving DecidableEq, Repr

/-- Where the walk along the bytes of a link begins. -/
def start (tree : FileTree) (here : Visit) (bytes : List UInt8) : Visit :=
  if bytes.head? = some Path.slash then tree.top else here

/-- Walk along names.  A link on the way, and at the end unless it is kept
there, is handed to `onLink` with the place where its target begins and the
names that remain.  A file is not made where a slash asks for a directory,
whatever has that name. -/
def walkWith (tree : FileTree) (ending : Ending)
    (onLink : Visit → List Name → Except SystemError Place) :
    Visit → List Name → Except SystemError Place
  | here, [] => .ok (.found here)
  | here, name :: rest =>
    if ending = .made ∧ rest = [[]] ∧ here.node.isDirectory then
      .error .isDirectory
    else
      match descend here name with
      | .error cause => .error cause
      | .ok (.vacant place) =>
        if rest = [] then .ok (.vacant place) else .error .missing
      | .ok (.found place) =>
        match place.node with
        | .link target =>
          if rest = [] ∧ ending = .kept then .ok (.found place)
          else onLink (tree.start here target) (walkNames target ++ rest)
        | _ => tree.walkWith ending onLink place rest

/-- Walk along names and follow at most the given number of links. -/
def walk (tree : FileTree) (ending : Ending) :
    Nat → Visit → List Name → Except SystemError Place
  | 0 => tree.walkWith ending fun _ _ => .error .tooManyLinks
  | links + 1 => tree.walkWith ending (tree.walk ending links)

/-- Walk along the names of a path, which begins at the root or in the working
directory. -/
def walkFrom (tree : FileTree) (ending : Ending) (bytes : List UInt8)
    (names : List Name) : Except SystemError Place :=
  let beginning :=
    if bytes.head? = some Path.slash then tree.top
    else tree.top.down tree.workingDirectory
  tree.walk ending linkLimit beginning names

/-- Whether a path contains the null byte, which no name can. -/
def hasNull (path : Path) : Bool :=
  path.bytes.contains 0

/-- Refuse the paths that no walk begins with. -/
def check (path : Path) : Except SystemError Unit :=
  if hasNull path then .error .nullInName
  else if path.isEmpty then .error .missing
  else if longestPath < path.bytes.length then .error .nameTooLong
  else .ok ()

/-- Walk along the names of a path that has been admitted. -/
def place (tree : FileTree) (ending : Ending) (path : Path) :
    Except SystemError Place :=
  tree.walkFrom ending path.bytes (walkNames path.bytes)

/-- The node that an admitted path names. -/
def locate (tree : FileTree) (path : Path) : Except SystemError Visit :=
  match tree.place .followed path with
  | .error cause => .error cause
  | .ok (.vacant _) => .error .missing
  | .ok (.found visit) => .ok visit

/-- The node that a path names. -/
def resolve (tree : FileTree) (path : Path) : Except SystemError Visit :=
  match check path with
  | .error cause => .error cause
  | .ok () => tree.locate path

/-- Whether a path names a directory. -/
def isDirectory (tree : FileTree) (path : Path) : Bool :=
  match tree.resolve path with
  | .ok visit => visit.node.isDirectory
  | .error _ => false

end FileTree

end MemoryWatch
