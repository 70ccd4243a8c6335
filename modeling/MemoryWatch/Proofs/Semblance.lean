import MemoryWatch.Proofs.Handshake

/-!
# Hosts that look the same

What a process can find out about its descriptors is which of them are in use,
what stands behind each, and which share an open file.  Two hosts that agree in
this look the same, whatever positions their open files have and whatever files
nobody refers to any longer.  They give the same answers and the same numbers,
and they go on to look the same.
-/

namespace MemoryWatch

namespace Host

/-- Two hosts whose descriptors look the same.  Nothing is said of the files. -/
structure Resembles (host other : Host) : Prop where
  allowance : other.allowance = host.allowance
  storage : other.storage = host.storage
  coherent : host.IsCoherent
  twinCoherent : other.IsCoherent
  file : ∀ descriptor, other.openFile? descriptor = host.openFile? descriptor
  shared : ∀ first second,
    other.position? first = other.position? second ↔
      host.position? first = host.position? second

/-! ## What is free -/

theorem openFile?_eq_none_iff {host : Host} (coherent : host.IsCoherent)
    {descriptor : Descriptor} :
    host.openFile? descriptor = none ↔ host.position? descriptor = none := by
  cases located : host.position? descriptor with
  | none => simp [openFile?, located]
  | some position =>
      have within := coherent descriptor position located
      simp [openFile?, located, within]

/-- The lowest free number depends only on which numbers are in use. -/
theorem occupy_fst_congr {table other : List (Option Nat)}
    (same : ∀ descriptor : Nat,
      ((other[descriptor]?).join).isSome = ((table[descriptor]?).join).isSome)
    (first second : Nat) :
    (occupy second other).1 = (occupy first table).1 := by
  induction table generalizing other with
  | nil =>
      cases other with
      | nil => rfl
      | cons entry rest =>
          have head := same 0
          cases entry with
          | none => rfl
          | some position => simp at head
  | cons entry rest ih =>
      have head := same 0
      cases other with
      | nil =>
          cases entry with
          | none => rfl
          | some position => simp at head
      | cons twin others =>
          have tail := @ih others fun descriptor => by
            simpa using same (descriptor + 1)
          cases entry with
          | none =>
              cases twin with
              | none => rfl
              | some position => simp at head
          | some position =>
              cases twin with
              | none => simp at head
              | some position => simpa [occupy] using tail

/-! ## What stands behind a descriptor after a change -/

theorem openFile?_attach {host : Host} (coherent : host.IsCoherent)
    (file : OpenFile) (descriptor : Descriptor) :
    (host.attach file).2.openFile? descriptor =
      if descriptor = (host.attach file).1 then some file
      else host.openFile? descriptor := by
  split
  · next same => rw [same, openFile?_attach_self]
  · next different =>
      have kept := position?_attach host file descriptor
      rw [if_neg different] at kept
      cases located : host.position? descriptor with
      | none => rw [openFile?, kept, located, openFile?, located]; rfl
      | some position =>
          exact (keeps_of_append coherent (openFiles_attach host file) located
            kept).file

theorem openFile?_close (host : Host) (closed descriptor : Descriptor) :
    (host.close closed).openFile? descriptor =
      if descriptor = closed then none else host.openFile? descriptor := by
  rw [openFile?, position?_close]
  split <;> rfl

/-- A change of the file behind a descriptor is seen through all descriptors
that share it. -/
theorem openFile?_update_of_located {host : Host} (coherent : host.IsCoherent)
    {changed : Descriptor} {position : Nat}
    (located : host.position? changed = some position) (file : OpenFile)
    (descriptor : Descriptor) :
    (host.update changed file).openFile? descriptor =
      if host.position? descriptor = host.position? changed then some file
      else host.openFile? descriptor := by
  have touches := touches_update host changed file
  split
  · next same =>
      have within := coherent changed position located
      rw [openFile?_eq ((touches.position? descriptor).trans
        (same.trans located)), update, located]
      exact List.getElem?_set_self within
  · next different =>
      exact touches.openFile?_of_ne (Ne.symm different)

namespace Resembles

variable {host other between : Host}

theorem refl (coherent : host.IsCoherent) : host.Resembles host where
  allowance := rfl
  storage := rfl
  coherent := coherent
  twinCoherent := coherent
  file _ := rfl
  shared _ _ := Iff.rfl

theorem symm (resembles : host.Resembles other) : other.Resembles host where
  allowance := resembles.allowance.symm
  storage := resembles.storage.symm
  coherent := resembles.twinCoherent
  twinCoherent := resembles.coherent
  file descriptor := (resembles.file descriptor).symm
  shared first second := (resembles.shared first second).symm

theorem trans (first : host.Resembles between)
    (second : between.Resembles other) : host.Resembles other where
  allowance := second.allowance.trans first.allowance
  storage := second.storage.trans first.storage
  coherent := first.coherent
  twinCoherent := second.twinCoherent
  file descriptor := (second.file descriptor).trans (first.file descriptor)
  shared one another :=
    (second.shared one another).trans (first.shared one another)

theorem free_iff (resembles : host.Resembles other) (descriptor : Descriptor) :
    other.position? descriptor = none ↔ host.position? descriptor = none := by
  rw [← openFile?_eq_none_iff resembles.twinCoherent, resembles.file,
    openFile?_eq_none_iff resembles.coherent]

theorem isSome_position? (resembles : host.Resembles other)
    (descriptor : Descriptor) :
    (other.position? descriptor).isSome = (host.position? descriptor).isSome := by
  rw [Bool.eq_iff_iff, Option.isSome_iff_ne_none, Option.isSome_iff_ne_none,
    ne_eq, ne_eq, resembles.free_iff]

theorem openCount (resembles : host.Resembles other) :
    other.openCount = host.openCount :=
  countP_congr resembles.isSome_position?

theorem hasRoom (resembles : host.Resembles other) :
    other.hasRoom = host.hasRoom := by
  rw [Host.hasRoom, Host.hasRoom, resembles.openCount, resembles.allowance]

theorem attach_fst (resembles : host.Resembles other) (file twin : OpenFile) :
    (other.attach twin).1 = (host.attach file).1 :=
  occupy_fst_congr resembles.isSome_position? _ _

theorem attach (resembles : host.Resembles other) (file : OpenFile) :
    (host.attach file).2.Resembles (other.attach file).2 where
  allowance := resembles.allowance
  storage := resembles.storage
  coherent := isCoherent_attach resembles.coherent file
  twinCoherent := isCoherent_attach resembles.twinCoherent file
  file descriptor := by
    rw [openFile?_attach resembles.twinCoherent,
      openFile?_attach resembles.coherent, resembles.attach_fst file file,
      resembles.file]
  shared first second := by
    have fresh (descriptor : Descriptor) :
        host.position? descriptor ≠ some host.openFiles.length := fun located =>
      lt_irrefl _ (resembles.coherent descriptor _ located)
    have twinFresh (descriptor : Descriptor) :
        other.position? descriptor ≠ some other.openFiles.length :=
      fun located => lt_irrefl _ (resembles.twinCoherent descriptor _ located)
    simp only [position?_attach, resembles.attach_fst file file]
    by_cases one : first = (host.attach file).1 <;>
      by_cases another : second = (host.attach file).1 <;>
        simp [one, another, fresh, twinFresh, (fresh _).symm,
          (twinFresh _).symm, resembles.shared]

theorem close (resembles : host.Resembles other) (closed : Descriptor) :
    (host.close closed).Resembles (other.close closed) where
  allowance := resembles.allowance
  storage := resembles.storage
  coherent := isCoherent_close resembles.coherent closed
  twinCoherent := isCoherent_close resembles.twinCoherent closed
  file descriptor := by
    rw [openFile?_close, openFile?_close, resembles.file]
  shared first second := by
    have free := resembles.free_iff
    simp only [position?_close]
    by_cases one : first = closed <;> by_cases another : second = closed <;>
      simp [one, another, @eq_comm _ none, free, resembles.shared]

theorem update (resembles : host.Resembles other) (changed : Descriptor)
    (file : OpenFile) :
    (host.update changed file).Resembles (other.update changed file) := by
  cases located : host.position? changed with
  | none =>
      have twinFree := (resembles.free_iff changed).mpr located
      rw [Host.update, located, Host.update, twinFree]
      exact resembles
  | some position =>
      have placed := resembles.isSome_position? changed
      rw [located, Option.isSome_some, Option.isSome_iff_exists] at placed
      obtain ⟨_, twinLocated⟩ := placed
      have touches := touches_update host changed file
      have touched := touches_update other changed file
      obtain ⟨_, here⟩ := host.update_eq changed file
      obtain ⟨_, there⟩ := other.update_eq changed file
      refine ⟨?_, ?_, touches.isCoherent resembles.coherent,
        touched.isCoherent resembles.twinCoherent, ?_, ?_⟩
      · rw [here, there]
        exact resembles.allowance
      · rw [here, there]
        exact resembles.storage
      · intro descriptor
        rw [openFile?_update_of_located resembles.twinCoherent twinLocated,
          openFile?_update_of_located resembles.coherent located,
          resembles.file]
        simp only [resembles.shared]
      · intro first second
        simp only [touches.position?, touched.position?]
        exact resembles.shared first second

/-- A second descriptor for a file looks the same. -/
theorem share (resembles : host.Resembles other) {source : Descriptor}
    {position twin : Nat} (located : host.position? source = some position)
    (twinLocated : other.position? source = some twin) :
    Resembles { host with table := (occupy position host.table).2 }
      { other with table := (occupy twin other.table).2 } := by
  let made := (occupy position host.table).1
  have number : (occupy twin other.table).1 = made :=
    occupy_fst_congr resembles.isSome_position? _ _
  have taken (descriptor : Descriptor) :
      position? { host with table := (occupy position host.table).2 }
          descriptor =
        host.position? (if descriptor = made then source else descriptor) := by
    refine (occupy_lookup position host.table descriptor).trans ?_
    split <;> simp_all [made, position?]
  have twinTaken (descriptor : Descriptor) :
      position? { other with table := (occupy twin other.table).2 }
          descriptor =
        other.position? (if descriptor = made then source else descriptor) := by
    refine (occupy_lookup twin other.table descriptor).trans ?_
    rw [number]
    split <;> simp_all [made, position?]
  refine ⟨resembles.allowance, resembles.storage, ?_, ?_, ?_, ?_⟩
  · intro descriptor place held
    rw [taken] at held
    exact resembles.coherent _ _ held
  · intro descriptor place held
    rw [twinTaken] at held
    exact resembles.twinCoherent _ _ held
  · intro descriptor
    rw [openFile?, twinTaken, openFile?, taken]
    exact resembles.file _
  · intro first second
    rw [twinTaken, twinTaken, taken, taken]
    exact resembles.shared _ _

theorem refile (resembles : host.Resembles other) (tree twin : FileTree) :
    Resembles { host with tree } { other with tree := twin } :=
  { resembles with }

end Resembles

/-- Two hosts whose descriptors look the same and that have the same files. -/
structure Mirrors (host other : Host) : Prop extends Resembles host other where
  tree : other.tree = host.tree

namespace Mirrors

variable {host other : Host}

theorem refl (coherent : host.IsCoherent) : host.Mirrors host :=
  ⟨.refl coherent, rfl⟩

theorem trans {between : Host} (first : host.Mirrors between)
    (second : between.Mirrors other) : host.Mirrors other :=
  ⟨first.toResembles.trans second.toResembles, second.tree.trans first.tree⟩

theorem close (mirrors : host.Mirrors other) (closed : Descriptor) :
    (host.close closed).Mirrors (other.close closed) :=
  ⟨mirrors.toResembles.close closed, mirrors.tree⟩

theorem update (mirrors : host.Mirrors other) (changed : Descriptor)
    (file : OpenFile) :
    (host.update changed file).Mirrors (other.update changed file) := by
  refine ⟨mirrors.toResembles.update changed file, ?_⟩
  obtain ⟨_, here⟩ := host.update_eq changed file
  obtain ⟨_, there⟩ := other.update_eq changed file
  rw [here, there]
  exact mirrors.tree

/-- Both hosts have given one answer and go on to look the same. -/
structure Both {α : Type} (first second : α × Host) : Prop where
  answer : second.1 = first.1
  mirrors : first.2.Mirrors second.2

theorem create (mirrors : host.Mirrors other) (content : OpenContent) :
    Both (host.create content) (other.create content) := by
  rw [Host.create, Host.create, mirrors.hasRoom]
  split
  · exact ⟨congrArg Except.ok (mirrors.attach_fst _ _),
      mirrors.toResembles.attach _, mirrors.tree⟩
  · exact ⟨rfl, mirrors⟩

theorem openPath (mirrors : host.Mirrors other) (path : Path)
    (access : Access) :
    Both (host.openPath path access) (other.openPath path access) := by
  rw [Host.openPath, Host.openPath, mirrors.hasRoom, mirrors.tree]
  split
  · exact ⟨rfl, mirrors⟩
  split
  · split
    · exact ⟨rfl, mirrors⟩
    · split
      · exact ⟨rfl, mirrors⟩
      · exact mirrors.create _
  · exact ⟨rfl, mirrors⟩

theorem duplicate (mirrors : host.Mirrors other) (source : Descriptor) :
    Both (host.duplicate source) (other.duplicate source) := by
  have placed := mirrors.isSome_position? source
  have barred : other.allowance = .nothing ↔ host.allowance = .nothing := by
    rw [mirrors.allowance]
  rw [Host.duplicate, Host.duplicate, mirrors.hasRoom]
  cases located : host.position? source with
  | none =>
      rw [(mirrors.free_iff source).mpr located]
      exact ⟨rfl, mirrors⟩
  | some position =>
      rw [located, Option.isSome_some, Option.isSome_iff_exists] at placed
      obtain ⟨twin, twinLocated⟩ := placed
      rw [twinLocated]
      simp only [barred]
      split
      · exact ⟨rfl, mirrors⟩
      split
      · have number := occupy_fst_congr mirrors.isSome_position? position twin
        exact ⟨congrArg Except.ok number,
          mirrors.share located twinLocated, mirrors.tree⟩
      · exact ⟨rfl, mirrors⟩

theorem read (mirrors : host.Mirrors other) (descriptor : Descriptor) :
    Both (host.read descriptor) (other.read descriptor) := by
  rw [Host.read, Host.read, mirrors.file]
  rcases host.openFile? descriptor with _ | ⟨content, impatient⟩
  · exact ⟨rfl, mirrors⟩
  cases content with
  | counter pending =>
      dsimp only
      split
      · exact ⟨rfl, mirrors⟩
      · exact ⟨rfl, mirrors.update _ _⟩
  | stored unread => exact ⟨rfl, mirrors.update _ _⟩
  | pipe unread hasWriter =>
      dsimp only
      split
      · exact ⟨rfl, mirrors⟩
      · exact ⟨rfl, mirrors.update _ _⟩
  | directory | endpoint location => exact ⟨rfl, mirrors⟩
  | device device access =>
      cases device <;> cases access <;> exact ⟨rfl, mirrors⟩

theorem write (mirrors : host.Mirrors other) (descriptor : Descriptor)
    (bytes : List UInt8) :
    Both (host.write descriptor bytes) (other.write descriptor bytes) := by
  have same := mirrors.file descriptor
  rcases file : host.openFile? descriptor with _ | ⟨content, impatient⟩
  · rw [file] at same
    rw [Host.write, Host.write, file, same]
    exact ⟨rfl, mirrors⟩
  rw [file] at same
  cases content with
  | endpoint location =>
      refine ⟨?_, ?_⟩
      · rw [write_fst_of_endpoint file, write_fst_of_endpoint same,
          mirrors.storage]
      · rw [write_of_endpoint file, write_of_endpoint same]
        refine ⟨mirrors.refile _ _, ?_⟩
        dsimp only
        rw [mirrors.storage, mirrors.tree]
  | counter pending =>
      rw [Host.write, Host.write, file, same]
      dsimp only
      split
      · exact ⟨rfl, mirrors⟩
      · split
        · exact ⟨rfl, mirrors⟩
        · exact ⟨rfl, mirrors.update _ _⟩
  | stored unread | pipe unread hasWriter | directory =>
      rw [Host.write, Host.write, file, same]
      exact ⟨rfl, mirrors⟩
  | device device access =>
      rw [Host.write, Host.write, file, same]
      cases device <;> cases access <;> exact ⟨rfl, mirrors⟩

end Mirrors

end Host

end MemoryWatch
