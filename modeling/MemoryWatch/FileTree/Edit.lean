import MemoryWatch.FileTree.Basic

/-!
# Changes of a file tree

These are the changes that go on around a watcher: directories, files and links
appear, move and disappear.  Each change either happens as a whole and answers
with the new tree, or answers with the cause of its failure; only making a
directory with its ancestors and removing one with its content can fail half
way, so these answer with a tree in both cases.

The one change that the watcher itself makes is `overwrite`, which puts bytes
over the beginning of a file and leaves the rest of it.
-/

namespace MemoryWatch

namespace FileTree

/-- Change the node at a location, if there is one. -/
def alter (tree : FileTree) (location : Location) (change : Node → Node) :
    FileTree :=
  { tree with root := tree.root.alter change location }

/-- Change the directory above a location, given the last name. -/
def alterAbove (tree : FileTree) (location : Location)
    (change : Name → Node → Node) : FileTree :=
  match location.getLast? with
  | none => tree
  | some name => tree.alter location.dropLast (change name)

/-- Put a node at a free location. -/
def insert (tree : FileTree) (location : Location) (node : Node) : FileTree :=
  tree.alterAbove location fun name => .addChild name node

/-- Put another node at a location in use. -/
def replace (tree : FileTree) (location : Location) (node : Node) : FileTree :=
  tree.alter location fun _ => node

/-- Bytes put over the beginning of a content. -/
def overlay (bytes content : List UInt8) : List UInt8 :=
  bytes ++ content.drop bytes.length

/-- Put bytes over the beginning of the file at a location. -/
def overwrite (tree : FileTree) (location : Location) (bytes : List UInt8) :
    FileTree :=
  tree.alter location fun node =>
    match node with
    | .file content => .file (overlay bytes content)
    | other => other

/-- A location below another one when so many of its names are left.  Empty
names stand for the others, so that nothing made later is taken for them. -/
def forgotten (above : Location) (kept : Nat) (location : Location) :
    Location :=
  if above.isPrefixOf location then
    location.take kept ++ List.replicate (location.length - kept) []
  else location

/-- Take away a location and everything below it. -/
def erase (tree : FileTree) (location : Location) : FileTree :=
  { tree.alterAbove location .removeChild with
    workingDirectory :=
      forgotten location (location.length - 1) tree.workingDirectory }

/-- Take away everything below a location. -/
def empty (tree : FileTree) (location : Location) : FileTree :=
  { tree.alter location .clear with
    workingDirectory :=
      forgotten location location.length tree.workingDirectory }

/-- A location after another one, with everything below it, has moved. -/
def followed (source destination location : Location) : Location :=
  if source.isPrefixOf location then
    destination ++ location.drop source.length
  else location

/-- Move a location and everything below it to a free location.  The working
directory moves along. -/
def move (tree : FileTree) (source destination : Location) : FileTree :=
  match tree.nodeAt source with
  | none => tree
  | some node =>
    { (tree.erase source).insert destination node with
      workingDirectory :=
        followed source destination tree.workingDirectory }

/-- A name that can be given and taken away: not the root, a dot or two
dots. -/
def isProper (name : Option Name) : Bool :=
  name ≠ none && name ≠ some [Path.dot] && name ≠ some [Path.dot, Path.dot]

/-- The directory in which the last name of a path is looked up, and that
name. -/
def lastName (tree : FileTree) (path : Path) :
    Except SystemError (Visit × Option Name) :=
  match check path with
  | .error cause => .error cause
  | .ok () =>
    let names := plainNames path.bytes
    match tree.walkFrom .followed path.bytes names.dropLast with
    | .error cause => .error cause
    | .ok (.vacant _) => .error .missing
    | .ok (.found directory) =>
      if directory.node.isDirectory then .ok (directory, names.getLast?)
      else .error .notDirectory

/-- The free location of a name that is to be made.  A link there counts as
taken. -/
def vacancy (tree : FileTree) (path : Path) : Except SystemError Location :=
  match tree.lastName path with
  | .error cause => .error cause
  | .ok (directory, name) =>
    if !isProper name then .error .taken
    else
      match descend directory (name.getD []) with
      | .error cause => .error cause
      | .ok (.found _) => .error .taken
      | .ok (.vacant location) => .ok location

/-- Make one directory. -/
def makeDirectory (tree : FileTree) (path : Path) :
    Except SystemError FileTree :=
  match tree.vacancy path with
  | .error cause => .error cause
  | .ok location => .ok (tree.insert location (.directory []))

/-- Parts of a path without the empty parts and single dots at the end, except
for the very first part. -/
def trimmed : List Name → List Name
  | [] => []
  | first :: rest =>
    first ::
      (rest.reverse.dropWhile fun name => name = [] ∨ name = [Path.dot]).reverse

/-- The path of some parts. -/
def ofParts (names : List Name) : Path :=
  ⟨[Path.slash].intercalate names⟩

/-- The path before the last name, and `none` for a path without names. -/
def parent? (path : Path) : Option Path :=
  match trimmed (Path.segments path.bytes) with
  | [] => none
  | [first] => if first = [] then none else some ⟨[]⟩
  | names => some (ofParts (trimmed names.dropLast))

/-- A path and all paths before it, from the longest to the shortest.  The
bound is at least the number of names. -/
def ancestors : Nat → Path → List Path
  | 0, path => [path]
  | bound + 1, path =>
    match parent? path with
    | none => [path]
    | some before => path :: ancestors bound before

/-- Make the first of some directories, the later ones of which are its
ancestors, making those only when they are missing. -/
def makeFirst (tree : FileTree) :
    List Path → Except SystemError Unit × FileTree
  | [] => (.error .noAncestor, tree)
  | path :: before =>
    if path.isEmpty then (.ok (), tree)
    else
      match tree.makeDirectory path with
      | .ok made => (.ok (), made)
      | .error cause =>
        if cause = .missing then
          match tree.makeFirst before with
          | (.error cause, changed) => (.error cause, changed)
          | (.ok (), changed) =>
            match changed.makeDirectory path with
            | .ok made => (.ok (), made)
            | .error cause =>
              if changed.isDirectory path then (.ok (), changed)
              else (.error cause, changed)
        else if tree.isDirectory path then (.ok (), tree)
        else (.error cause, tree)

/-- Make a directory and those of its ancestors that are missing.  A directory
that exists is left as it is. -/
def makeDirectories (tree : FileTree) (path : Path) :
    Except SystemError Unit × FileTree :=
  tree.makeFirst (ancestors path.bytes.length path)

/-- Give a file a content, making the file if nothing has its name.  A device
takes the bytes as its kind does. -/
def writeFile (tree : FileTree) (path : Path) (content : List UInt8) :
    Except SystemError FileTree :=
  match check path with
  | .error cause => .error cause
  | .ok () =>
    match tree.place .made path with
    | .error cause => .error cause
    | .ok (.vacant location) => .ok (tree.insert location (.file content))
    | .ok (.found visit) =>
      match visit.node with
      | .file _ => .ok (tree.replace visit.location (.file content))
      | .device .full => if content = [] then .ok tree else .error .noSpace
      | .device (.barred cause) => .error cause
      | .device _ => .ok tree
      | .directory _ | .link _ => .error .isDirectory

/-- Make a symbolic link. -/
def makeLink (tree : FileTree) (path target : Path) :
    Except SystemError FileTree :=
  if hasNull target || hasNull path then .error .nullInName
  else
    match check target with
    | .error cause => .error cause
    | .ok () =>
      match tree.vacancy path with
      | .error cause => .error cause
      | .ok location =>
        if path.endsInSlash then .error .missing
        else .ok (tree.insert location (.link target.bytes))

/-- Take away an empty directory. -/
def removeDirectory (tree : FileTree) (path : Path) :
    Except SystemError FileTree :=
  match tree.lastName path with
  | .error cause => .error cause
  | .ok (_, none) => .error .busy
  | .ok (directory, some name) =>
    if name = [Path.dot] then .error .invalidArgument
    else if name = [Path.dot, Path.dot] then .error .notEmpty
    else
      match descend directory name with
      | .error cause => .error cause
      | .ok (.vacant _) => .error .missing
      | .ok (.found visit) =>
        if !visit.node.isDirectory then .error .notDirectory
        else if visit.node.hasChildren then .error .notEmpty
        else .ok (tree.erase visit.location)

/-- Take away a name that is not a directory's.  Slashes at the end ask for a
directory, which even a link to one is not. -/
def unlink (tree : FileTree) (path : Path) : Except SystemError FileTree :=
  match tree.lastName path with
  | .error cause => .error cause
  | .ok (directory, name) =>
    if !isProper name then .error .isDirectory
    else
      match descend directory (name.getD []) with
      | .error cause => .error cause
      | .ok (.vacant _) => .error .missing
      | .ok (.found visit) =>
        if visit.node.isDirectory then .error .isDirectory
        else if path.endsInSlash then .error .notDirectory
        else .ok (tree.erase visit.location)

/-- Empty the directory at a location and then take away what a path, which
led there, names now.  That the path leads nowhere by then is no failure. -/
def clear (tree : FileTree) (path : Path) (location : Location) :
    Except SystemError Unit × FileTree :=
  let emptied := tree.empty location
  match emptied.removeDirectory path with
  | .error .missing => (.ok (), emptied)
  | .error cause => (.error cause, emptied)
  | .ok removed => (.ok (), removed)

/-- Take away what a path names; a link is taken away itself.  A directory is
emptied first, which cannot be undone when it turns out that the directory
itself has to stay. -/
def remove (tree : FileTree) (path : Path) :
    Except SystemError Unit × FileTree :=
  let unlinked :=
    match tree.unlink path with
    | .error cause => (.error cause, tree)
    | .ok changed => (.ok (), changed)
  match check path with
  | .error _ => unlinked
  | .ok () =>
    match tree.place .kept path with
    | .ok (.found visit) =>
      if visit.node.isDirectory then tree.clear path visit.location
      else unlinked
    | _ => unlinked

/-- Move what stands at one location to another, where nothing may be below the
former.  What stood at the latter gives way when it is of the same sort and, if
it is a directory, empty. -/
def relocate (tree : FileTree) (source target : Location) :
    Except SystemError FileTree :=
  if source = target then .ok tree
  else
    match tree.nodeAt source, tree.nodeAt target with
    | none, _ => .error .missing
    | some _, none => .ok (tree.move source target)
    | some moved, some replaced =>
      if moved.isDirectory && !replaced.isDirectory then .error .notDirectory
      else if !moved.isDirectory && replaced.isDirectory then
        .error .isDirectory
      else if replaced.hasChildren then .error .notEmpty
      else .ok ((tree.erase target).move source target)

/-- Give one name of a directory to what stands under another.  Slashes at the
end ask for a directory, and nothing moves below or above itself. -/
def renameWithin (tree : FileTree) (slashes : Bool) (before after : Visit)
    (old new : Name) : Except SystemError FileTree :=
  match descend before old, descend after new with
  | .error cause, _ => .error cause
  | .ok (.vacant _), _ => .error .missing
  | _, .error cause => .error cause
  | .ok (.found moved), .ok _ =>
    let source := before.location ++ [old]
    let target := after.location ++ [new]
    let isSame := before.location = after.location
    if slashes && !moved.node.isDirectory then .error .notDirectory
    else if source.isPrefixOf after.location && !isSame then
      .error .invalidArgument
    else if target.isPrefixOf before.location && !isSame then .error .notEmpty
    else tree.relocate source target

/-- Give what one path names the name that another path ends in. -/
def rename (tree : FileTree) (path destination : Path) :
    Except SystemError FileTree :=
  if hasNull path || hasNull destination then .error .nullInName
  else
    match tree.lastName path, tree.lastName destination with
    | .error cause, _ => .error cause
    | _, .error cause => .error cause
    | .ok (before, some old), .ok (after, some new) =>
      if isProper (some old) && isProper (some new) then
        tree.renameWithin (path.endsInSlash || destination.endsInSlash)
          before after old new
      else .error .busy
    | .ok _, .ok _ => .error .busy

/-- A directory with some named nodes. -/
def directoryOf (children : List (String × Node)) : Node :=
  .directory (children.map fun child => (Utf8.ofString child.1, child.2))

/-- A tree with the usual directories and devices and an empty working
directory.  That one has the empty name, which no path can spell, so that it
can be reached by no name that somebody happens to think of. -/
def fresh : FileTree where
  root :=
    directoryOf
      (("dev",
        directoryOf
          [("null", .device .null), ("full", .device .full),
           ("zero", .device .zero)]) ::
       ("tmp", directoryOf [("", directoryOf [])]) ::
       ["bin", "etc", "home", "lib", "proc", "root", "run", "sys", "usr",
        "var"].map fun name => (name, directoryOf []))
  workingDirectory := [Utf8.ofString "tmp", []]

end FileTree

end MemoryWatch
