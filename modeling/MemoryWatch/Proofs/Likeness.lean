import MemoryWatch.FileTree.Edit

/-!
# File trees that are alike

Two trees are alike when they have the same directories, names, links and
devices, so that they can only differ in what their regular files contain, and
when the contents of every two files at the same place are related in a given
way.  Looking up a name, and changing both trees at a place in the same manner,
respect this.
-/

namespace MemoryWatch

/-- A relation between the contents of two files. -/
abbrev Likeness := List UInt8 → List UInt8 → Prop

mutual

/-- Two nodes are alike up to the contents of files, which are related. -/
inductive Node.Alike (related : Likeness) : Node → Node → Prop
  | directory {children others : List (Name × Node)}
      (inside : Node.AlikeInside related children others) :
      Node.Alike related (.directory children) (.directory others)
  | file {content other : List UInt8} (like : related content other) :
      Node.Alike related (.file content) (.file other)
  | link (target : List UInt8) : Node.Alike related (.link target) (.link target)
  | device (kind : Device) :
      Node.Alike related (.device kind) (.device kind)

/-- The children of two directories are alike. -/
inductive Node.AlikeInside (related : Likeness) :
    List (Name × Node) → List (Name × Node) → Prop
  | nil : Node.AlikeInside related [] []
  | cons {name : Name} {child other : Node}
      {children others : List (Name × Node)}
      (first : Node.Alike related child other)
      (rest : Node.AlikeInside related children others) :
      Node.AlikeInside related ((name, child) :: children)
        ((name, other) :: others)

end

namespace Node

variable {related : Likeness} {node other : Node}
  {children others : List (Name × Node)}

mutual

theorem Alike.refl (reflexive : ∀ content, related content content) :
    (node : Node) → Alike related node node
  | .directory children => .directory (AlikeInside.refl reflexive children)
  | .file content => .file (reflexive content)
  | .link target => .link target
  | .device kind => .device kind

theorem AlikeInside.refl (reflexive : ∀ content, related content content) :
    (children : List (Name × Node)) → AlikeInside related children children
  | [] => .nil
  | (_, child) :: rest =>
      .cons (Alike.refl reflexive child) (AlikeInside.refl reflexive rest)

end

theorem Alike.isDirectory (alike : Alike related node other) :
    other.isDirectory = node.isDirectory := by
  cases alike <;> rfl

theorem Alike.hasChildren (alike : Alike related node other) :
    other.hasChildren = node.hasChildren := by
  cases alike with
  | directory inside => cases inside <;> rfl
  | file like => rfl
  | link target => rfl
  | device kind => rfl

/-! ## Looking up -/

/-- There is nothing in both places, or there are nodes that are alike. -/
def AlikeFound (related : Likeness) : Option Node → Option Node → Prop
  | none, none => True
  | some node, some other => Alike related node other
  | _, _ => False

theorem AlikeInside.lookup (name : Name) :
    {children others : List (Name × Node)} →
      AlikeInside related children others →
        AlikeFound related (children.lookup name) (others.lookup name)
  | _, _, .nil => trivial
  | (own, _) :: _, _, .cons first rest => by
      rw [List.lookup_cons, List.lookup_cons]
      cases name == own with
      | true => exact first
      | false => exact AlikeInside.lookup name rest

theorem Alike.child? (alike : Alike related node other) (name : Name) :
    AlikeFound related (node.child? name) (other.child? name) := by
  cases alike with
  | directory inside => exact inside.lookup name
  | file like => trivial
  | link target => trivial
  | device kind => trivial

theorem Alike.at? (alike : Alike related node other) (location : Location) :
    AlikeFound related (node.at? location) (other.at? location) := by
  induction location generalizing node other with
  | nil => exact alike
  | cons name rest ih =>
      have found := alike.child? name
      rw [Node.at?, Node.at?]
      cases first : node.child? name <;> cases second : other.child? name <;>
        rw [first, second] at found
      · trivial
      · exact found.elim
      · exact found.elim
      · exact ih found

/-! ## Changing -/

/-- Changes that lead from nodes that are alike to nodes that are alike. -/
def Respects (related : Likeness) (change counterpart : Node → Node) : Prop :=
  ∀ node other, Alike related node other →
    Alike related (change node) (counterpart other)

theorem AlikeInside.map {change counterpart : Node → Node}
    (respects : Respects related change counterpart) (name : Name) :
    {children others : List (Name × Node)} →
      AlikeInside related children others →
        AlikeInside related
          (children.map fun entry =>
            if entry.1 = name then (entry.1, change entry.2) else entry)
          (others.map fun entry =>
            if entry.1 = name then (entry.1, counterpart entry.2) else entry)
  | _, _, .nil => .nil
  | (own, _) :: _, _, .cons first rest => by
      rw [List.map_cons, List.map_cons]
      have further := AlikeInside.map respects name rest
      by_cases same : own = name
      · rw [if_pos same, if_pos same]
        exact .cons (respects _ _ first) further
      · rw [if_neg same, if_neg same]
        exact .cons first further

theorem Alike.alter {change counterpart : Node → Node}
    (respects : Respects related change counterpart) (location : Location) :
    Respects related (fun node => node.alter change location)
      (fun node => node.alter counterpart location) := by
  induction location with
  | nil => exact respects
  | cons name rest ih =>
      intro node other alike
      cases alike with
      | directory inside => exact .directory (inside.map ih name)
      | file like => exact .file like
      | link target => exact .link target
      | device kind => exact .device kind

theorem AlikeInside.append {more counterparts : List (Name × Node)}
    (further : AlikeInside related more counterparts) :
    {children others : List (Name × Node)} →
      AlikeInside related children others →
        AlikeInside related (children ++ more) (others ++ counterparts)
  | _, _, .nil => further
  | _, _, .cons first rest => .cons first (AlikeInside.append further rest)

end Node

namespace FileTree

/-- Two trees are alike and have the same working directory. -/
structure Alike (related : Likeness) (tree other : FileTree) : Prop where
  root : Node.Alike related tree.root other.root
  workingDirectory : other.workingDirectory = tree.workingDirectory

end FileTree

end MemoryWatch
