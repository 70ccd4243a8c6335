import MemoryWatch.Proofs.Likeness

/-!
# Writing over the beginning of a file

Bytes put over the beginning of a file change the content of this file and
nothing else in the tree: all names, directories, links and devices stay, and so
does the content of every other file.  What the file had behind the bytes is
still there, so that no file gets shorter.
-/

namespace MemoryWatch

/-- Trees that are alike in this way have the same names, directories, links and
devices.  Their files may contain anything. -/
def anyContent : Likeness := fun _ _ => True

namespace Node

variable {node : Node}

/-- What a node contains that is a regular file. -/
def content? : Node → Option (List UInt8)
  | file content => some content
  | directory _ | link _ | device _ => none

/-- A node after bytes were put over its beginning, if it is a regular file. -/
def overwritten (bytes : List UInt8) : Node → Node
  | file content => file (FileTree.overlay bytes content)
  | directory children => directory children
  | link target => link target
  | device kind => device kind

theorem alike_overwritten (bytes : List UInt8) :
    Respects anyContent id (overwritten bytes) := by
  intro node other alike
  cases alike with
  | directory inside => exact .directory inside
  | file like => exact .file trivial
  | link target => exact .link target
  | device kind => exact .device kind

/-- A change that leaves the node alone leaves everything alone. -/
theorem alter_id (node : Node) (location : Location) :
    node.alter id location = node := by
  induction location generalizing node with
  | nil => rfl
  | cons name rest ih =>
      cases node with
      | directory children =>
          rw [alter]
          congr 1
          refine (List.map_congr_left fun entry _ => ?_).trans
            (List.map_id children)
          split
          · rw [ih]
            rfl
          · rfl
      | file content => rfl
      | link target => rfl
      | device kind => rfl

theorem child?_alter (change : Node → Node) (node : Node) (name : Name)
    (rest : Location) (other : Name) :
    (node.alter change (name :: rest)).child? other =
      if other = name then
        (node.child? other).map fun child => child.alter change rest
      else node.child? other := by
  cases node with
  | directory children =>
      rw [alter, child?, child?]
      induction children with
      | nil => simp
      | cons entry children ih =>
          obtain ⟨own, child⟩ := entry
          rw [List.map_cons]
          by_cases asked : other = own
          · subst asked
            by_cases named : other = name <;> simp [named]
          · have apart : (other == own) = false := by simpa using asked
            by_cases named : own = name
            · subst named
              simp [List.lookup_cons, apart, ih]
            · simp [named, List.lookup_cons, apart, ih]
  | file content => simp [alter, child?]
  | link target => simp [alter, child?]
  | device kind => simp [alter, child?]

theorem at?_alter_self (change : Node → Node) (location : Location)
    {found : Node} (stands : node.at? location = some found) :
    (node.alter change location).at? location = some (change found) := by
  induction location generalizing node with
  | nil =>
      cases stands
      rfl
  | cons name rest ih =>
      rw [at?] at stands ⊢
      rw [child?_alter, if_pos rfl]
      cases below : node.child? name with
      | none =>
          rw [below] at stands
          cases stands
      | some child =>
          rw [below] at stands
          exact ih stands

/-- Only the file at the location gets another content. -/
theorem content?_overwritten_of_ne (bytes : List UInt8)
    {location other : Location} (elsewhere : other ≠ location) :
    ((node.alter (overwritten bytes) location).at? other).bind content? =
      (node.at? other).bind content? := by
  induction location generalizing node other with
  | nil =>
      cases other with
      | nil => exact absurd rfl elsewhere
      | cons name rest => cases node <;> rfl
  | cons name rest ih =>
      cases other with
      | nil => cases node <;> rfl
      | cons asked further =>
          rw [at?, at?, child?_alter]
          by_cases same : asked = name
          · subst same
            rw [if_pos rfl]
            have apart : further ≠ rest := by
              rintro rfl
              exact elsewhere rfl
            cases node.child? asked with
            | none => rfl
            | some child => exact ih apart
          · rw [if_neg same]

end Node

namespace FileTree

/-- The content of the regular file at a location, if one is there. -/
def content? (tree : FileTree) (location : Location) : Option (List UInt8) :=
  (tree.nodeAt location).bind Node.content?

/-- One tree after another between which bytes were put over the beginning of
the file at a location. -/
structure Overwrites (location : Location) (bytes : List UInt8)
    (before after : FileTree) : Prop where
  /-- Nothing was made, taken away or renamed. -/
  alike : Alike anyContent before after
  elsewhere : ∀ other, other ≠ location →
    after.content? other = before.content? other
  there : ∃ content, before.content? location = some content ∧
    after.content? location = some (bytes ++ content.drop bytes.length)

theorem overwrite_eq (tree : FileTree) (location : Location)
    (bytes : List UInt8) :
    tree.overwrite location bytes =
      tree.alter location (Node.overwritten bytes) := by
  rw [overwrite]
  congr 1
  funext node
  cases node <;> rfl

@[simp]
theorem overwrite_nil (tree : FileTree) (location : Location) :
    tree.overwrite location [] = tree := by
  have same : Node.overwritten [] = id := by
    funext node
    cases node <;> rfl
  rw [overwrite_eq, same, alter, Node.alter_id]

theorem overwrites {tree : FileTree} {location : Location}
    {content : List UInt8} (bytes : List UInt8)
    (stands : tree.nodeAt location = some (.file content)) :
    Overwrites location bytes tree (tree.overwrite location bytes) where
  alike := by
    rw [overwrite_eq]
    refine ⟨?_, rfl⟩
    have unchanged : Node.Alike anyContent tree.root tree.root :=
      .refl (fun _ => trivial) _
    have altered := Node.Alike.alter (Node.alike_overwritten bytes) location
      _ _ unchanged
    dsimp only at altered
    rwa [Node.alter_id] at altered
  elsewhere other apart := by
    rw [overwrite_eq]
    exact Node.content?_overwritten_of_ne bytes apart
  there := by
    rw [overwrite_eq]
    refine ⟨content, by rw [content?, stands]; rfl, ?_⟩
    rw [content?, nodeAt, alter, Node.at?_alter_self _ location stands]
    rfl

/-- No file is shorter than before. -/
theorem Overwrites.length_le {location : Location} {bytes : List UInt8}
    {before after : FileTree}
    (overwrites : Overwrites location bytes before after) {other : Location}
    {content : List UInt8} (stands : before.content? other = some content) :
    ∃ longer, after.content? other = some longer ∧
      content.length ≤ longer.length := by
  by_cases same : other = location
  · subst same
    obtain ⟨old, found, changed⟩ := overwrites.there
    obtain rfl : old = content := Option.some.inj (found.symm.trans stands)
    refine ⟨_, changed, ?_⟩
    rw [List.length_append, List.length_drop]
    omega
  · exact ⟨content, (overwrites.elsewhere other same).trans stands,
      Nat.le_refl _⟩

end FileTree

end MemoryWatch
