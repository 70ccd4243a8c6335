import MemoryWatch.SystemError

/-!
# Nodes of a file tree

A node is a directory with its named children, a regular file, a symbolic link
or a device.  A location is the list of names that leads from a directory to a
node below it.  Looking up and changing the node at a location go down the tree
along the names; a change at one location leaves all nodes alone that are
neither there nor below nor above it.
-/

namespace MemoryWatch

/-- A file name. -/
abbrev Name := List UInt8

/-- The names from a directory to a node below it. -/
abbrev Location := List Name

/-- The devices that a tree can contain.  There are no devices that wait or take
a part of what is written, and in particular no named pipes. -/
inductive Device where
  | null
  | full
  | zero
  /-- What nobody can open: a socket, a device without a driver, or a file that
  the program has no right to. -/
  | barred (cause : SystemError)
  deriving DecidableEq, Repr

/-- What stands at a location. -/
inductive Node where
  | directory (children : List (Name × Node))
  | file (content : List UInt8)
  | link (target : List UInt8)
  | device (device : Device)

namespace Node

/-- Whether a node is a directory. -/
def isDirectory : Node → Bool
  | directory _ => true
  | file _ | link _ | device _ => false

/-- Whether a node is a directory with something in it. -/
def hasChildren : Node → Bool
  | directory children => !children.isEmpty
  | file _ | link _ | device _ => false

/-- The node with a name in a directory. -/
def child? (node : Node) (name : Name) : Option Node :=
  match node with
  | directory children => children.lookup name
  | file _ | link _ | device _ => none

/-- The node at a location below a node. -/
def at? (node : Node) : Location → Option Node
  | [] => some node
  | name :: rest =>
    match node.child? name with
    | none => none
    | some child => child.at? rest

/-- Change the node at a location, if there is one. -/
def alter (change : Node → Node) (node : Node) : Location → Node
  | [] => change node
  | name :: rest =>
    match node with
    | directory children =>
      directory (children.map fun entry =>
        if entry.1 = name then (entry.1, entry.2.alter change rest) else entry)
    | file _ | link _ | device _ => node

/-- Put a node under a free name of a directory. -/
def addChild (name : Name) (added : Node) : Node → Node
  | directory children => directory (children ++ [(name, added)])
  | node => node

/-- Take a name and what it stands for out of a directory. -/
def removeChild (name : Name) : Node → Node
  | directory children =>
    directory (children.filter fun entry => entry.1 ≠ name)
  | node => node

/-- Take everything out of a directory. -/
def clear : Node → Node
  | directory _ => directory []
  | node => node

end Node

end MemoryWatch
