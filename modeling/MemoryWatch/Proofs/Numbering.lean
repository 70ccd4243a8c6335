import MemoryWatch.Proofs.Concord
import MemoryWatch.Proofs.Shape

/-!
# Other numbers

Two processes with the same files may differ in how many descriptors they have
and in which numbers these have.  As long as neither of them has as many as a
process can have at all, a descriptor is made in both or in neither, for the
same file, and a registration is taken in both in the same way.
-/

namespace MemoryWatch

namespace Allowance.Same

variable {count counterpart : Nat} {allowance other : Allowance}

theorem succ_iff :
    Same (count + 1) (counterpart + 1) allowance other ↔
      Same count counterpart allowance other := by
  constructor
  all_goals
    intro same
    cases same with
    | unlimited => exact .unlimited
    | nothing => exact .nothing
    | upTo even => exact .upTo (by omega)

end Allowance.Same

namespace Host

variable {host other after twin : Host}

/-- Neither process has as many descriptors as a process can have, and so they
may make one as well as the other. -/
theorem Alike.hasRoom (alike : host.Alike other)
    (room : host.openCount < tableLimit)
    (twinRoom : other.openCount < tableLimit) :
    other.hasRoom = host.hasRoom := by
  have same := alike.allowance
  rw [Host.hasRoom, Host.hasRoom]
  generalize host.allowance = first at same ⊢
  generalize other.allowance = second at same ⊢
  cases same with
  | unlimited => simp [room, twinRoom]
  | nothing => simp
  | upTo even =>
      simp only [room, twinRoom, decide_true, Bool.true_and, decide_eq_decide]
      omega

/-- Both processes have made a descriptor, or given one up, or neither has. -/
theorem Alike.renumber (alike : host.Alike other) {openFiles twins : List OpenFile}
    {table tableTwin : List (Option Nat)}
    (even : Allowance.Same ({ host with openFiles, table } : Host).openCount
      ({ other with openFiles := twins, table := tableTwin } : Host).openCount
      host.allowance other.allowance) :
    Alike { host with openFiles, table }
      { other with openFiles := twins, table := tableTwin } :=
  ⟨alike.files, alike.storage, even⟩

theorem Alike.attach (alike : host.Alike other) (file twin : OpenFile) :
    (host.attach file).2.Alike (other.attach twin).2 := by
  refine alike.renumber ?_
  have more := Allowance.Same.succ_iff.mpr alike.allowance
  rwa [← host.openCount_attach file, ← other.openCount_attach twin] at more

theorem Alike.close (alike : host.Alike other)
    {descriptor counterpart : Descriptor}
    (placed : ∃ position, host.position? descriptor = some position)
    (twinPlaced : ∃ position, other.position? counterpart = some position) :
    (host.close descriptor).Alike (other.close counterpart) := by
  obtain ⟨_, placed⟩ := placed
  obtain ⟨_, twinPlaced⟩ := twinPlaced
  refine alike.renumber ?_
  have fewer := alike.allowance
  rw [← openCount_close placed, ← openCount_close twinPlaced] at fewer
  exact Allowance.Same.succ_iff.mp fewer

/-! ## Making descriptors -/

/-- Both processes have made a descriptor, each of its own number. -/
structure BothMade (host other after twin : Host) : Prop where
  alike : after.Alike twin
  count : after.openCount = host.openCount + 1
  twinCount : twin.openCount = other.openCount + 1

theorem Alike.create (alike : host.Alike other)
    (room : host.openCount < tableLimit)
    (twinRoom : other.openCount < tableLimit) (content copy : OpenContent) :
    (host.create content = (.error .tooManyOpen, host) ∧
        other.create copy = (.error .tooManyOpen, other)) ∨
      ∃ descriptor counterpart after twin,
        host.create content = (.ok descriptor, after) ∧
        other.create copy = (.ok counterpart, twin) ∧
        BothMade host other after twin := by
  rw [Host.create, Host.create, alike.hasRoom room twinRoom]
  split
  · exact Or.inr ⟨_, _, _, _, rfl, rfl, alike.attach _ _,
      openCount_attach _ _, openCount_attach _ _⟩
  · exact Or.inl ⟨rfl, rfl⟩

/-- What is opened for writing is the same in both processes. -/
theorem contentOf_alike {related : Likeness} {node counterpart : Node}
    (nodes : Node.Alike related node counterpart) (location : Location)
    (access : Access) :
    Matched (fun content copy => access = .writing → copy = content)
      (contentOf location access node)
      (contentOf location access counterpart) := by
  cases nodes with
  | directory inside =>
      cases access with
      | reading => exact .ok fun _ => rfl
      | writing => exact .error _
  | file like =>
      cases access with
      | reading => exact .ok fun writing => by cases writing
      | writing => exact .ok fun _ => rfl
  | link target => exact .error _
  | device kind =>
      cases kind with
      | barred cause => exact .error _
      | null | full | zero => exact .ok fun _ => rfl

/-- A path is opened in both processes, or fails to be opened with the same
cause. -/
theorem Alike.openPath (alike : host.Alike other)
    (room : host.openCount < tableLimit)
    (twinRoom : other.openCount < tableLimit) (path : Path) (access : Access) :
    (∃ cause, host.openPath path access = (.error cause, host) ∧
        other.openPath path access = (.error cause, other)) ∨
      ∃ descriptor counterpart after twin,
        host.openPath path access = (.ok descriptor, after) ∧
        other.openPath path access = (.ok counterpart, twin) ∧
        BothMade host other after twin := by
  rw [Host.openPath, Host.openPath, alike.hasRoom room twinRoom]
  split
  · exact Or.inl ⟨_, rfl, rfl⟩
  split
  · have located := FileTree.alike_locate alike.files path
    generalize host.tree.locate path = first at located ⊢
    generalize other.tree.locate path = second at located ⊢
    cases located with
    | error cause => exact Or.inl ⟨_, rfl, rfl⟩
    | @ok visit visitTwin visits =>
        have contents := contentOf_alike visits.node visit.location access
        dsimp only
        rw [visits.location]
        generalize contentOf _ access visit.node = first at contents ⊢
        generalize contentOf _ access visitTwin.node = second at contents ⊢
        cases contents with
        | error cause => exact Or.inl ⟨_, rfl, rfl⟩
        | @ok content copy same =>
            -- What is read may differ in a registration, but not in kind.
            obtain ⟨failed, twinFailed⟩ | made :=
              alike.create room twinRoom content copy
            · exact Or.inl ⟨_, failed, twinFailed⟩
            · exact Or.inr made
  · exact Or.inl ⟨_, rfl, rfl⟩

/-- A channel has another descriptor in both processes, or in neither. -/
theorem Alike.duplicate (alike : host.Alike other)
    (room : host.openCount < tableLimit)
    (twinRoom : other.openCount < tableLimit)
    {descriptor counterpart : Descriptor} {position positionTwin : Nat}
    (placed : host.position? descriptor = some position)
    (twinPlaced : other.position? counterpart = some positionTwin) :
    Matched (fun _ _ => True) (host.duplicate descriptor).1
        (other.duplicate counterpart).1 ∧
      (host.duplicate descriptor).2.Alike (other.duplicate counterpart).2 := by
  have roomSame := alike.hasRoom room twinRoom
  have barred : other.allowance = .nothing ↔ host.allowance = .nothing := by
    have same := alike.allowance
    generalize host.allowance = first at same ⊢
    generalize other.allowance = second at same ⊢
    cases same <;> simp
  have more := Allowance.Same.succ_iff.mpr alike.allowance
  rw [openCount, openCount, ← countP_occupy position,
    ← countP_occupy positionTwin] at more
  rw [Host.duplicate, Host.duplicate, placed, twinPlaced, roomSame]
  simp only [barred]
  split
  · exact ⟨.error _, alike⟩
  split
  · exact ⟨.ok trivial, alike.renumber more⟩
  · exact ⟨.error _, alike⟩

end Host

/-! ## Registrations -/

namespace Registration

/-- The blank of a registration is there whatever it names. -/
theorem IsText.length_pos {bytes : List UInt8} (text : IsText bytes) :
    0 < bytes.length := by
  obtain @⟨channel, oomControl, text, named⟩ := text
  rw [message] at named
  split at named
  · cases named
  · cases named
    have blank : (Utf8.ofString " ").length = 1 := by decide
    change 0 < (Utf8.ofString
      (toString channel ++ " " ++ toString oomControl)).length
    rw [Utf8.ofString_append, Utf8.ofString_append, List.length_append,
      List.length_append, blank]
    omega

/-- Two files have taken a registration whole, or have left as much of it over,
or have failed with the same cause. -/
inductive SameTake (length other : Nat) :
    Answer SystemError Nat → Answer SystemError Nat → Prop
  | whole : SameTake length other (.done length) (.done other)
  | short (missing : Nat) (less : length - missing < length)
      (twinLess : other - missing < other) :
      SameTake length other (.done (length - missing)) (.done (other - missing))
  | failed (cause : SystemError) :
      SameTake length other (.failed cause) (.failed cause)

end Registration

namespace Host

open Registration (IsText SameTake SameContent)

variable {host other : Host} {control counterpart : Descriptor}
  {first second : List UInt8}

theorem sameTake_answer (storage : Storage) (text : IsText first)
    (copy : IsText second) :
    SameTake first.length second.length (storage.answer first)
      (storage.answer second) := by
  cases storage with
  | ample => exact .whole
  | failing cause => exact .failed cause
  | lacking missing =>
      rw [Storage.answer, Storage.answer, List.length_take, List.length_take,
        Nat.min_eq_left (Nat.sub_le _ _), Nat.min_eq_left (Nat.sub_le _ _)]
      rcases Nat.eq_zero_or_pos missing with rfl | lacks
      · exact .whole
      · exact .short missing (Nat.sub_lt text.length_pos lacks)
          (Nat.sub_lt copy.length_pos lacks)

/-- A registration of other descriptors is taken in the same way. -/
theorem sameTake_write (storage : other.storage = host.storage)
    (text : IsText first) (copy : IsText second)
    {content : OpenContent}
    (file : host.openFile? control = some { content })
    (twinFile : other.openFile? counterpart = some { content })
    (writable : (∃ location, content = .endpoint location) ∨
      ∃ device, content = .device device .writing) :
    SameTake first.length second.length (host.write control first).1
      (other.write counterpart second).1 := by
  obtain ⟨location, rfl⟩ | ⟨device, rfl⟩ := writable
  · rw [write_fst_of_endpoint file, write_fst_of_endpoint twinFile, storage]
    exact sameTake_answer host.storage text copy
  · rw [write, write, file, twinFile]
    cases device with
    | full => exact .failed _
    | null | zero | barred _ => exact .whole

/-- So the files are the same after it, up to the numbers that it names. -/
theorem sameFiles_write
    (files : FileTree.SameFiles host.storage host.tree other.tree)
    (storage : other.storage = host.storage) (text : IsText first)
    (copy : IsText second) {content : OpenContent}
    (file : host.openFile? control = some { content })
    (twinFile : other.openFile? counterpart = some { content })
    (writable : (∃ location, content = .endpoint location) ∨
      ∃ device, content = .device device .writing) :
    FileTree.SameFiles host.storage (host.write control first).2.tree
      (other.write counterpart second).2.tree := by
  obtain ⟨location, rfl⟩ | ⟨device, rfl⟩ := writable
  · rw [write_of_endpoint file, write_of_endpoint twinFile, storage]
    exact files.overwrite location fun content twin before =>
      .registered text copy before
  · rw [write_of_device file, write_of_device twinFile]
    exact files

theorem Alike.register (alike : host.Alike other) (text : IsText first)
    (copy : IsText second)
    {content : OpenContent}
    (file : host.openFile? control = some { content })
    (twinFile : other.openFile? counterpart = some { content })
    (writable : (∃ location, content = .endpoint location) ∨
      ∃ device, content = .device device .writing) :
    SameTake first.length second.length (host.write control first).1
        (other.write counterpart second).1 ∧
      (host.write control first).2.Alike (other.write counterpart second).2 := by
  have files := sameFiles_write alike.files alike.storage text copy file
    twinFile writable
  refine ⟨sameTake_write alike.storage text copy file twinFile writable, ?_⟩
  obtain ⟨location, rfl⟩ | ⟨device, rfl⟩ := writable
  · rw [write_of_endpoint file, write_of_endpoint twinFile, alike.storage]
      at files ⊢
    exact ⟨files, rfl, alike.allowance⟩
  · rw [write_of_device file, write_of_device twinFile]
    exact alike

end Host

end MemoryWatch
