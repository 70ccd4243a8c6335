import MemoryWatch.Proofs.Semblance

/-!
# Hosts without what a watcher holds

A file that is opened and held is in nobody's way once it is given up: without
the handles of a watcher the host looks as it did before, and so it does when
the file was opened in place of another one.  What others write through their
own descriptors comes to the same with and without these handles.
-/

namespace MemoryWatch

namespace Host

/-- The host once some handles are given up. -/
def without (host : Host) (handles : Handles) : Host :=
  handles.held.foldl (fun host handle => host.close handle.2) host

variable {host other : Host} {handles next : Handles}

/-- Hosts look the same when one of them has opened more files that nobody
refers to. -/
theorem Resembles.of_position {host other : Host} (more : List OpenFile)
    (coherent : host.IsCoherent)
    (openFiles : other.openFiles = host.openFiles ++ more)
    (position : ∀ descriptor,
      other.position? descriptor = host.position? descriptor)
    (allowance : other.allowance = host.allowance)
    (storage : other.storage = host.storage) : host.Resembles other where
  allowance := allowance
  storage := storage
  coherent := coherent
  twinCoherent descriptor place located := by
    rw [position] at located
    have within := coherent descriptor place located
    rw [openFiles, List.length_append]
    omega
  file descriptor := by
    cases located : host.position? descriptor with
    | none => rw [openFile?, position, located, openFile?, located]; rfl
    | some place =>
        exact (keeps_of_append coherent openFiles located
          (position descriptor)).file
  shared first second := by rw [position, position]

theorem without_eq (host : Host) (handles : Handles) :
    ∃ table, host.without handles = { host with table } := by
  rw [without]
  generalize handles.held = held
  induction held generalizing host with
  | nil => exact ⟨host.table, rfl⟩
  | cons handle rest ih => exact ih (host.close handle.2)

theorem without_of_empty (host : Host) (mark : Option String) :
    host.without { registration := mark } = host :=
  rfl

/-- It is the same whether something else changes before or after. -/
theorem without_comm {change : Host → Host}
    (commutes : ∀ host descriptor,
      (change host).close descriptor = change (host.close descriptor))
    (host : Host) (handles : Handles) :
    (change host).without handles = change (host.without handles) := by
  rw [without, without]
  generalize handles.held = held
  induction held generalizing host with
  | nil => rfl
  | cons handle rest ih =>
      rw [List.foldl_cons, commutes, ih]
      rfl

theorem position?_closeAll (held : List (HandleKind × Descriptor))
    (host : Host) (descriptor : Descriptor) :
    (held.foldl (fun host handle => host.close handle.2) host).position?
        descriptor =
      if descriptor ∈ held.map Prod.snd then none
      else host.position? descriptor := by
  induction held generalizing host with
  | nil => rfl
  | cons handle rest ih =>
      rw [List.foldl_cons, ih, position?_close]
      by_cases closed : descriptor = handle.2
      · simp [closed]
      · simp only [closed, if_false, List.map_cons, List.mem_cons, false_or]

theorem position?_without_of_held {kind : HandleKind} {descriptor : Descriptor}
    (held : handles.descriptor? kind = some descriptor) (host : Host) :
    (host.without handles).position? descriptor = none := by
  have member : (kind, descriptor) ∈ handles.held :=
    Watcher.mem_held_iff.mpr held
  rw [without, position?_closeAll, if_pos (List.mem_map_of_mem member)]

theorem position?_without_of_not {descriptor : Descriptor}
    (free : ∀ kind, handles.descriptor? kind ≠ some descriptor)
    (host : Host) :
    (host.without handles).position? descriptor =
      host.position? descriptor := by
  have absent : descriptor ∉ handles.held.map Prod.snd := by
    intro member
    obtain ⟨handle, held, rfl⟩ := List.mem_map.mp member
    exact free handle.1 (Watcher.mem_held_iff.mp held)
  rw [without, position?_closeAll, if_neg absent]

theorem position?_without_of_free {descriptor : Descriptor}
    (free : host.position? descriptor = none) (handles : Handles) :
    (host.without handles).position? descriptor = none := by
  rw [without, position?_closeAll, free, ite_self]

theorem isCoherent_without (coherent : host.IsCoherent) (handles : Handles) :
    (host.without handles).IsCoherent := by
  intro descriptor position located
  obtain ⟨_, rest⟩ := host.without_eq handles
  have known : host.position? descriptor = some position := by
    rw [without, position?_closeAll] at located
    split at located
    · cases located
    · exact located
  rw [rest]
  exact coherent descriptor position known

/-- Hosts look the same without some handles when one of them has only more
files that nobody refers to then. -/
theorem mirrors_without (more : List OpenFile) (coherent : host.IsCoherent)
    (openFiles : other.openFiles = host.openFiles ++ more)
    (position : ∀ descriptor,
      (other.without next).position? descriptor =
        (host.without handles).position? descriptor)
    (tree : other.tree = host.tree)
    (allowance : other.allowance = host.allowance)
    (storage : other.storage = host.storage) :
    (host.without handles).Mirrors (other.without next) := by
  obtain ⟨_, here⟩ := host.without_eq handles
  obtain ⟨_, there⟩ := other.without_eq next
  refine ⟨.of_position more (isCoherent_without coherent handles) ?_ position
    ?_ ?_, ?_⟩
  · rw [here, there]
    exact openFiles
  · rw [here, there]
    exact allowance
  · rw [here, there]
    exact storage
  · rw [here, there]
    exact tree

/-! ## Writing through another descriptor -/

theorem write_close {closed descriptor : Descriptor}
    (apart : descriptor ≠ closed) (host : Host) (bytes : List UInt8) :
    (host.close closed).write descriptor bytes =
      ((host.write descriptor bytes).1,
        (host.write descriptor bytes).2.close closed) := by
  have same : (host.close closed).position? descriptor =
      host.position? descriptor := by
    rw [position?_close, if_neg apart]
  have table := (host.touches_write descriptor bytes).table
  rw [close] at same ⊢
  rw [write_renumbered same, close, table]

theorem write_without {descriptor : Descriptor}
    (free : ∀ kind, handles.descriptor? kind ≠ some descriptor) (host : Host)
    (bytes : List UInt8) :
    (host.without handles).write descriptor bytes =
      ((host.write descriptor bytes).1,
        (host.write descriptor bytes).2.without handles) := by
  have apart : ∀ handle ∈ handles.held, descriptor ≠ handle.2 := by
    rintro handle member rfl
    exact free handle.1 (Watcher.mem_held_iff.mp member)
  simp only [without]
  generalize handles.held = held at apart ⊢
  induction held generalizing host with
  | nil => rfl
  | cons handle rest ih =>
      rw [List.foldl_cons, ih _ fun later member =>
        apart later (List.mem_cons_of_mem handle member),
        write_close (apart handle List.mem_cons_self)]
      rfl

end Host

namespace Environment

variable {env opened : Environment} {made : Descriptor}

theorem attach_of_create {content : OpenContent}
    (created : env.create content = (.ok made, opened)) :
    env.host.attach { content } = (made, opened.host) := by
  rw [create] at created
  rcases result : env.host.create content with ⟨cause | number, host⟩
  · simp [result] at created
  · simp only [result] at created
    cases created
    exact Host.create_ok result

/-- A descriptor that is made and held changes nothing about the places of the
others once it is given up, also when another one was given up for it. -/
theorem position?_taken {file : OpenFile}
    (attached : env.host.attach file = (made, opened.host))
    (handles : Handles) (kind : HandleKind) (descriptor : Descriptor) :
    ((opened.closeHeld (handles.descriptor? kind)).host.without
        (handles.put kind (some made))).position? descriptor =
      (env.host.without handles).position? descriptor := by
  have free := env.host.position?_attach_free file
  have placed := env.host.position?_attach file
  rw [attached] at free placed
  -- What is held afterwards is free on both sides: the new descriptor was free
  -- before, and the others were held before.  Of all the rest only the
  -- descriptor that was given up has moved, and that one was held before.
  by_cases held : ∃ other,
      (handles.put kind (some made)).descriptor? other = some descriptor
  · obtain ⟨other, held⟩ := held
    rw [Host.position?_without_of_held held]
    rw [Handles.descriptor?_put] at held
    split at held
    · cases held
      exact (Host.position?_without_of_free free handles).symm
    · exact (Host.position?_without_of_held held env.host).symm
  · have apart (other : HandleKind) :
        (handles.put kind (some made)).descriptor? other ≠ some descriptor :=
      fun same => held ⟨other, same⟩
    have different : descriptor ≠ made := by
      rintro rfl
      exact apart kind (by rw [Handles.descriptor?_put, if_pos rfl])
    rw [Host.position?_without_of_not apart, position?_closeHeld, placed,
      if_neg different]
    by_cases given : handles.descriptor? kind = some descriptor
    · rw [if_pos given, Host.position?_without_of_held given]
    · rw [if_neg given, Host.position?_without_of_not]
      intro other same
      by_cases alike : other = kind
      · exact given (alike ▸ same)
      · exact apart other (by rw [Handles.descriptor?_put, if_neg alike, same])

/-- A file that is opened and held leaves no trace on the host once it is given
up. -/
theorem mirrors_taken {file : OpenFile} (coherent : env.host.IsCoherent)
    (attached : env.host.attach file = (made, opened.host))
    (handles : Handles) (kind : HandleKind) :
    (env.host.without handles).Mirrors
      ((opened.closeHeld (handles.descriptor? kind)).host.without
        (handles.put kind (some made))) := by
  have files := env.host.openFiles_attach file
  rw [attached] at files
  obtain ⟨_, closed⟩ := opened.host_closeHeld (handles.descriptor? kind)
  obtain ⟨tree, allowance, storage⟩ : opened.host.tree = env.host.tree ∧
      opened.host.allowance = env.host.allowance ∧
      opened.host.storage = env.host.storage := by
    rw [Host.attach] at attached
    rw [← (Prod.mk.inj attached).2]
    exact ⟨rfl, rfl, rfl⟩
  refine Host.mirrors_without [file] coherent ?_
    (position?_taken attached handles kind) ?_ ?_ ?_
  · rw [openFiles_closeHeld, files]
  · rw [closed, ← tree]
  · rw [closed, ← allowance]
  · rw [closed, ← storage]

end Environment

end MemoryWatch
