import MemoryWatch.Counter
import MemoryWatch.FileTree.Edit

/-!
# The host of a watcher

The host holds the file tree, the open files and the table of descriptors.  A
descriptor is a number that refers to an open file; a duplicate refers to the
same open file.  New descriptors take the lowest free number, and an allowance
limits how many there may be.

Event counters are open files as well: writing adds to the counter, reading
takes its value and clears it, and either waits when it cannot be done.
-/

namespace MemoryWatch

/-- The number of a descriptor. -/
abbrev Descriptor := Nat

/-- Whether an open file may be read or written. -/
inductive Access where
  | reading
  | writing
  deriving DecidableEq, Repr

/-- What an open file is. -/
inductive OpenContent where
  /-- An event counter with the sum that has not been read yet. -/
  | counter (pending : UInt64)
  /-- A regular file that is read from its beginning. -/
  | stored (unread : List UInt8)
  /-- The reading end of a pipe. -/
  | pipe (unread : List UInt8) (hasWriter : Bool)
  | directory
  /-- A regular file that is written from its beginning. -/
  | endpoint (location : Location)
  | device (device : Device) (access : Access)
  deriving DecidableEq, Repr

/-- An open file.  When it is `impatient`, a call that would wait fails. -/
structure OpenFile where
  content : OpenContent
  impatient : Bool := false
  deriving DecidableEq, Repr

/-- Whether an open file has something to read, and whether its other end is
gone. -/
structure Readiness where
  readable : Bool
  hungUp : Bool
  deriving DecidableEq, Repr

namespace Readiness

/-- Whether a wait on the file ends. -/
def any (readiness : Readiness) : Bool :=
  readiness.readable || readiness.hungUp

/-- The readiness of an open file.  Files, directories and devices never make
anybody wait. -/
def ofContent : OpenContent → Readiness
  | .counter pending => ⟨pending ≠ 0, false⟩
  | .pipe unread hasWriter => ⟨unread ≠ [], !hasWriter⟩
  | .stored _ | .directory | .endpoint _ | .device _ _ => ⟨true, false⟩

end Readiness

/-- How many descriptors there may be. -/
inductive Allowance where
  | unlimited
  | upTo (total : Nat)
  | nothing
  deriving DecidableEq, Repr

/-- Whether a call about so many descriptors fails because a process may not
have so many. -/
def Allowance.bars (allowance : Allowance) (count : Nat) : Bool :=
  match allowance with
  | .unlimited => false
  | .upTo total => total < count
  | .nothing => 0 < count

/-- How a write to a regular file ends: with all its bytes taken, with so many
left over at its end, or with an error.  Bytes are counted from the end, so that
a text fares the same whatever numbers of descriptors it names. -/
inductive Storage where
  | ample
  | lacking (missing : Nat)
  | failing (cause : SystemError)
  deriving DecidableEq, Repr

/-- The answer of a call that fails with an `ε` or may wait for ever. -/
inductive Answer (ε α : Type) where
  | done (value : α)
  | failed (cause : ε)
  | blocked
  deriving DecidableEq, Repr

namespace Answer

/-- An answer with another cause of failure. -/
def mapCause {ε δ α : Type} (change : ε → δ) : Answer ε α → Answer δ α
  | done value => done value
  | failed cause => failed (change cause)
  | blocked => blocked

/-- The answer of a call that does not wait. -/
def ofExcept {ε α : Type} : Except ε α → Answer ε α
  | .ok value => done value
  | .error cause => failed cause

end Answer

/-- The files of the host, what is open, and the table of descriptors, which
holds at each number the position of an open file.  Storage that runs out makes
writes to regular files short, or makes them fail. -/
structure Host where
  tree : FileTree
  openFiles : List OpenFile := []
  table : List (Option Nat) := []
  allowance : Allowance := .unlimited
  storage : Storage := .ample

namespace Host

/-- The most descriptors that a process can have under any allowance. -/
def tableLimit : Nat := 1048576

/-- The number of descriptors. -/
def openCount (host : Host) : Nat :=
  host.table.countP Option.isSome

/-- Whether one more descriptor may be made. -/
def hasRoom (host : Host) : Bool :=
  host.openCount < tableLimit &&
    match host.allowance with
    | .unlimited => true
    | .upTo total => host.openCount < total
    | .nothing => false

/-- The lowest free number of a table, and the table with it in use. -/
def occupy (position : Nat) : List (Option Nat) → Nat × List (Option Nat)
  | [] => (0, [some position])
  | none :: rest => (0, some position :: rest)
  | some other :: rest =>
    let (descriptor, occupied) := occupy position rest
    (descriptor + 1, some other :: occupied)

/-- The position of the open file behind a descriptor. -/
def position? (host : Host) (descriptor : Descriptor) : Option Nat :=
  (host.table[descriptor]?).join

/-- The open file behind a descriptor. -/
def openFile? (host : Host) (descriptor : Descriptor) : Option OpenFile :=
  (host.position? descriptor).bind fun position => host.openFiles[position]?

/-- Give a new descriptor to a new open file, without asking for room. -/
def attach (host : Host) (file : OpenFile) : Descriptor × Host :=
  let (descriptor, table) := occupy host.openFiles.length host.table
  (descriptor,
   { host with table := table, openFiles := host.openFiles ++ [file] })

/-- A host with the usual files and the three standard descriptors. -/
def fresh : Host where
  tree := FileTree.fresh
  openFiles := List.replicate 3 { content := .device .null .writing }
  table := [some 0, some 1, some 2]

/-- Make a descriptor for a new open file. -/
def create (host : Host) (content : OpenContent) :
    Except SystemError Descriptor × Host :=
  if host.hasRoom then
    let (descriptor, host) := host.attach { content }
    (.ok descriptor, host)
  else (.error .tooManyOpen, host)

/-- Make a second descriptor for an open file. -/
def duplicate (host : Host) (descriptor : Descriptor) :
    Except SystemError Descriptor × Host :=
  match host.position? descriptor with
  | none => (.error .badDescriptor, host)
  | some position =>
    if host.allowance = .nothing then (.error .invalidArgument, host)
    else if host.hasRoom then
      let (second, table) := occupy position host.table
      (.ok second, { host with table })
    else (.error .tooManyOpen, host)

/-- Give up a descriptor. -/
def close (host : Host) (descriptor : Descriptor) : Host :=
  { host with table := host.table.set descriptor none }

/-- Put another open file behind a descriptor.  Other descriptors of the file
that was there keep it. -/
def substitute (host : Host) (descriptor : Descriptor) (file : OpenFile) :
    Host :=
  { host with
    table := host.table.set descriptor (some host.openFiles.length)
    openFiles := host.openFiles ++ [file] }

/-- Change the open file at a position. -/
def updateAt (host : Host) (position : Nat) (file : OpenFile) : Host :=
  { host with openFiles := host.openFiles.set position file }

/-- Change the open file behind a descriptor, for all descriptors it has. -/
def update (host : Host) (descriptor : Descriptor) (file : OpenFile) : Host :=
  match host.position? descriptor with
  | some position => host.updateAt position file
  | none => host

/-- Make every call on an open file fail instead of waiting. -/
def makeImpatient (host : Host) (descriptor : Descriptor) : Host :=
  match host.openFile? descriptor with
  | some file => host.update descriptor { file with impatient := true }
  | none => host

/-- What opening a node gives. -/
def contentOf (location : Location) (access : Access) :
    Node → Except SystemError OpenContent
  | .directory _ =>
    match access with
    | .reading => .ok .directory
    | .writing => .error .isDirectory
  | .file content =>
    match access with
    | .reading => .ok (.stored content)
    | .writing => .ok (.endpoint location)
  | .device (.barred cause) => .error cause
  | .device device => .ok (.device device access)
  | .link _ => .error .tooManyLinks

/-- Open the file that a path names.  Opening neither makes nor shortens a
file.  Room for the descriptor is asked for before the path is walked. -/
def openPath (host : Host) (path : Path) (access : Access) :
    Except SystemError Descriptor × Host :=
  match FileTree.check path with
  | .error cause => (.error cause, host)
  | .ok () =>
    if host.hasRoom then
      match host.tree.locate path with
      | .error cause => (.error cause, host)
      | .ok visit =>
        match contentOf visit.location access visit.node with
        | .error cause => (.error cause, host)
        | .ok content => host.create content
    else (.error .tooManyOpen, host)

/-- Read at most eight bytes. -/
def read (host : Host) (descriptor : Descriptor) :
    Answer SystemError (List UInt8) × Host :=
  match host.openFile? descriptor with
  | none => (.failed .badDescriptor, host)
  | some file =>
    match file.content with
    | .counter pending =>
      if pending = 0 then
        (if file.impatient then .failed .wouldWait else .blocked, host)
      else
        (.done (Counter.toBytes pending),
         host.update descriptor { file with content := .counter 0 })
    | .stored unread =>
      (.done (unread.take Counter.size),
       host.update descriptor
         { file with content := .stored (unread.drop Counter.size) })
    | .pipe unread hasWriter =>
      if unread = [] ∧ hasWriter = true then
        (if file.impatient then .failed .wouldWait else .blocked, host)
      else
        (.done (unread.take Counter.size),
         host.update descriptor
           { file with content := .pipe (unread.drop Counter.size) hasWriter })
    | .directory => (.failed .isDirectory, host)
    | .endpoint _ => (.failed .badDescriptor, host)
    | .device _ .writing => (.failed .badDescriptor, host)
    | .device .null .reading => (.done [], host)
    | .device _ .reading => (.done (List.replicate Counter.size 0), host)

/-- Write bytes in one call. -/
def write (host : Host) (descriptor : Descriptor) (bytes : List UInt8) :
    Answer SystemError Nat × Host :=
  match host.openFile? descriptor with
  | none => (.failed .badDescriptor, host)
  | some file =>
    match file.content with
    | .counter pending =>
      let count := Counter.ofBytes (bytes.take Counter.size)
      if bytes.length < Counter.size ∨ Counter.largest < count.toNat then
        (.failed .invalidArgument, host)
      else if Counter.largest < pending.toNat + count.toNat then
        (if file.impatient then .failed .wouldWait else .blocked, host)
      else
        (.done Counter.size,
         host.update descriptor
           { file with content := .counter (pending + count) })
    | .endpoint location =>
      match host.storage with
      | .ample =>
        (.done bytes.length,
         { host with tree := host.tree.overwrite location bytes })
      | .lacking missing =>
        let taken := bytes.take (bytes.length - missing)
        (.done taken.length,
         { host with tree := host.tree.overwrite location taken })
      | .failing cause => (.failed cause, host)
    | .device .full .writing => (.failed .noSpace, host)
    | .device _ .writing => (.done bytes.length, host)
    | _ => (.failed .badDescriptor, host)

/-- The readiness of a descriptor. -/
def readiness (host : Host) (descriptor : Descriptor) : Readiness :=
  match host.openFile? descriptor with
  | some file => .ofContent file.content
  | none => ⟨false, false⟩

end Host

end MemoryWatch
