import MemoryWatch.Text.Separated
import MemoryWatch.Text.Utf8

/-!
# Paths

A path is a byte string.  Nothing is normalised when paths are stored, joined
or shown; joining only adds a slash where one is needed.  Two paths are
equivalent when they have the same components: repeated and trailing slashes
do not count, and neither does a single dot except at the very beginning.
-/

namespace MemoryWatch

/-- A path as the operating system takes it. -/
structure Path where
  bytes : List UInt8
  deriving DecidableEq, Repr, Inhabited

namespace Path

/-- The byte that separates names. -/
def slash : UInt8 := 0x2F

/-- The byte of which `.` and `..` are made. -/
def dot : UInt8 := 0x2E

/-- The path with the bytes of a text. -/
def ofString (text : String) : Path :=
  ⟨Utf8.ofString text⟩

/-- The path as text; ill-formed parts are shown as replacement characters. -/
def display (path : Path) : String :=
  Utf8.lossy path.bytes

/-- Whether the path has no bytes at all. -/
def isEmpty (path : Path) : Bool :=
  path.bytes.isEmpty

/-- Whether the path starts at the root. -/
def isAbsolute (path : Path) : Bool :=
  path.bytes.head? = some slash

/-- Whether the path ends in a slash. -/
def endsInSlash (path : Path) : Bool :=
  path.bytes.getLast? = some slash

/-- The path of a name below a directory.  A slash is put between them unless
the directory is empty or ends in one. -/
def join (directory : Path) (name : List UInt8) : Path :=
  if directory.isEmpty || directory.endsInSlash then
    ⟨directory.bytes ++ name⟩
  else
    ⟨directory.bytes ++ slash :: name⟩

/-- The parts of a byte string between its slashes.  There is always at least
one part, and a part may be empty. -/
def segments (bytes : List UInt8) : List (List UInt8) :=
  Separated.parts slash bytes

/-- One component of a path. -/
inductive Component where
  | root
  | current
  | parent
  | name (bytes : List UInt8)
  deriving DecidableEq, Repr

/-- The component of one part between slashes.  An empty part and a single dot
are none. -/
def component? (segment : List UInt8) : Option Component :=
  if segment = [] ∨ segment = [dot] then none
  else if segment = [dot, dot] then some .parent
  else some (.name segment)

/-- The component in front of the named ones: the root, or the dot with which a
relative path may begin. -/
def leading (path : Path) : List Component :=
  if path.isAbsolute then [.root]
  else if (segments path.bytes).head? = some [dot] then [.current]
  else []

/-- The components of a path. -/
def components (path : Path) : List Component :=
  path.leading ++ (segments path.bytes).filterMap component?

/-- The name that a path ends in, if its last component is one. -/
def fileName? (path : Path) : Option (List UInt8) :=
  match path.components.getLast? with
  | some (.name bytes) => some bytes
  | some .root | some .current | some .parent | none => none

/-- Whether two paths have the same components. -/
def equivalent (first second : Path) : Bool :=
  first.components = second.components

end Path

end MemoryWatch
