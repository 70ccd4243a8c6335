import MemoryWatch.Proofs.Walks

/-!
# Changes of trees that are alike

What others do to the files does not depend on what regular files contain.  The
same change of two trees that are alike fails with the same cause in both of
them, or leads to trees that are alike again, as long as a file may be given the
same content in both.
-/

namespace MemoryWatch

namespace Node

variable {related : Likeness} {node other : Node}

theorem AlikeInside.filter (keep : Name → Bool) :
    {children others : List (Name × Node)} →
      AlikeInside related children others →
        AlikeInside related (children.filter fun entry => keep entry.1)
          (others.filter fun entry => keep entry.1)
  | _, _, .nil => .nil
  | (name, _) :: _, _, .cons first rest => by
      have further := AlikeInside.filter keep rest
      rw [List.filter_cons, List.filter_cons]
      cases kept : keep name
      · exact further
      · exact .cons first further

theorem respects_addChild (name : Name) {added twin : Node}
    (alike : Alike related added twin) :
    Respects related (addChild name added) (addChild name twin) := by
  intro node other nodes
  cases nodes with
  | directory inside => exact .directory (.append (.cons alike .nil) inside)
  | file like => exact .file like
  | link target => exact .link target
  | device kind => exact .device kind

theorem respects_removeChild (name : Name) :
    Respects related (removeChild name) (removeChild name) := by
  intro node other nodes
  cases nodes with
  | directory inside => exact .directory (inside.filter fun own => decide (own ≠ name))
  | file like => exact .file like
  | link target => exact .link target
  | device kind => exact .device kind

theorem respects_clear : Respects related clear clear := by
  intro node other nodes
  cases nodes with
  | directory inside => exact .directory .nil
  | file like => exact .file like
  | link target => exact .link target
  | device kind => exact .device kind

end Node

namespace FileTree

/-- Two outcomes of a change that may fail half way. -/
structure Reworked (related : Likeness)
    (outcome counterpart : Except SystemError Unit × FileTree) : Prop where
  answer : counterpart.1 = outcome.1
  trees : Alike related outcome.2 counterpart.2

variable {related : Likeness} {tree other : FileTree}

namespace Alike

/-! ### Changes at a location -/

theorem alter {change counterpart : Node → Node}
    (trees : tree.Alike related other)
    (respects : Node.Respects related change counterpart)
    (location : Location) :
    (tree.alter location change).Alike related
      (other.alter location counterpart) :=
  ⟨.alter respects location _ _ trees.root, trees.workingDirectory⟩

theorem alterAbove {change counterpart : Name → Node → Node}
    (trees : tree.Alike related other)
    (respects : ∀ name,
      Node.Respects related (change name) (counterpart name))
    (location : Location) :
    (tree.alterAbove location change).Alike related
      (other.alterAbove location counterpart) := by
  rw [FileTree.alterAbove, FileTree.alterAbove]
  split
  · exact trees
  · exact trees.alter (respects _) _

theorem insert (trees : tree.Alike related other) (location : Location)
    {node twin : Node} (nodes : Node.Alike related node twin) :
    (tree.insert location node).Alike related (other.insert location twin) :=
  trees.alterAbove (fun name => Node.respects_addChild name nodes) location

theorem replace (trees : tree.Alike related other) (location : Location)
    {node twin : Node} (nodes : Node.Alike related node twin) :
    (tree.replace location node).Alike related
      (other.replace location twin) :=
  trees.alter (fun _ _ _ => nodes) location

theorem erase (trees : tree.Alike related other) (location : Location) :
    (tree.erase location).Alike related (other.erase location) := by
  have erased := trees.alterAbove Node.respects_removeChild location
  exact ⟨erased.root,
    congrArg (forgotten location (location.length - 1)) trees.workingDirectory⟩

theorem empty (trees : tree.Alike related other) (location : Location) :
    (tree.empty location).Alike related (other.empty location) := by
  have emptied := trees.alter Node.respects_clear location
  exact ⟨emptied.root,
    congrArg (forgotten location location.length) trees.workingDirectory⟩

theorem nodeAt (trees : tree.Alike related other) (location : Location) :
    Node.AlikeFound related (tree.nodeAt location) (other.nodeAt location) :=
  trees.root.at? location

theorem move (trees : tree.Alike related other)
    (source destination : Location) :
    (tree.move source destination).Alike related
      (other.move source destination) := by
  have found := trees.nodeAt source
  rw [FileTree.move, FileTree.move]
  cases first : tree.nodeAt source <;> cases second : other.nodeAt source <;>
    rw [first, second] at found
  · exact trees
  · exact found.elim
  · exact found.elim
  · have inserted := (trees.erase source).insert destination found
    exact ⟨inserted.root,
      congrArg (followed source destination) trees.workingDirectory⟩

/-- Two trees are alike again after the same bytes, or bytes that are as good,
were put over a file. -/
theorem overwrite (trees : tree.Alike related other) (location : Location)
    {bytes counterpart : List UInt8}
    (overlaid : ∀ content twin, related content twin →
      related (overlay bytes content) (overlay counterpart twin)) :
    (tree.overwrite location bytes).Alike related
      (other.overwrite location counterpart) := by
  refine trees.alter ?_ location
  intro node twin nodes
  cases nodes with
  | directory inside => exact .directory inside
  | file like => exact .file (overlaid _ _ like)
  | link target => exact .link target
  | device kind => exact .device kind

/-! ### Names -/

theorem isDirectory (trees : tree.Alike related other) (path : Path) :
    other.isDirectory path = tree.isDirectory path := by
  have resolved := alike_resolve trees path
  rw [FileTree.isDirectory, FileTree.isDirectory]
  generalize tree.resolve path = first at resolved ⊢
  generalize other.resolve path = second at resolved ⊢
  cases resolved with
  | error cause => rfl
  | ok visits => exact visits.node.isDirectory

theorem lastName (trees : tree.Alike related other) (path : Path) :
    Matched (fun first second =>
        Visit.Alike related first.1 second.1 ∧ second.2 = first.2)
      (tree.lastName path) (other.lastName path) := by
  rw [FileTree.lastName, FileTree.lastName]
  split
  · exact .error _
  · have walked := alike_walkFrom trees .followed path.bytes
      (plainNames path.bytes).dropLast
    dsimp only
    generalize tree.walkFrom .followed _ _ = first at walked
    generalize other.walkFrom .followed _ _ = second at walked
    cases walked with
    | error cause => exact .error _
    | ok places =>
        cases places with
        | vacant location => exact .error _
        | found visits =>
            dsimp only
            rw [visits.node.isDirectory]
            split
            · exact .ok ⟨visits, rfl⟩
            · exact .error _

theorem vacancy (trees : tree.Alike related other) (path : Path) :
    other.vacancy path = tree.vacancy path := by
  have last := trees.lastName path
  rw [FileTree.vacancy, FileTree.vacancy]
  generalize tree.lastName path = first at last ⊢
  generalize other.lastName path = second at last ⊢
  cases last with
  | error cause => rfl
  | @ok found counterpart holds =>
      obtain ⟨directory, name⟩ := found
      obtain ⟨twin, same⟩ := counterpart
      obtain ⟨visits, rfl⟩ := holds
      have descended := alike_descend visits (same.getD [])
      dsimp only
      split
      · rfl
      · generalize descend directory _ = first at descended ⊢
        generalize descend twin _ = second at descended ⊢
        cases descended with
        | error cause => rfl
        | ok places => cases places <;> rfl

/-! ### Making -/

theorem makeDirectory (trees : tree.Alike related other) (path : Path) :
    Matched (Alike related) (tree.makeDirectory path)
      (other.makeDirectory path) := by
  rw [FileTree.makeDirectory, FileTree.makeDirectory, trees.vacancy]
  split
  · exact .error _
  · exact .ok (trees.insert _ (.directory .nil))

theorem makeFirst (trees : tree.Alike related other) (paths : List Path) :
    Reworked related (tree.makeFirst paths) (other.makeFirst paths) := by
  induction paths with
  | nil => exact ⟨rfl, trees⟩
  | cons path before ih =>
      rw [FileTree.makeFirst, FileTree.makeFirst]
      split
      · exact ⟨rfl, trees⟩
      have made := trees.makeDirectory path
      have there := trees.isDirectory path
      generalize tree.makeDirectory path = first at made ⊢
      generalize other.makeDirectory path = second at made ⊢
      cases made with
      | ok trees => exact ⟨rfl, trees⟩
      | error cause =>
          dsimp only
          split
          · obtain ⟨answer, changed⟩ := ih
            generalize tree.makeFirst before = first at answer changed ⊢
            generalize other.makeFirst before = second at answer changed ⊢
            obtain ⟨outcome, further⟩ := first
            obtain ⟨same, counterpart⟩ := second
            obtain rfl : same = outcome := answer
            rcases same with cause | _
            · exact ⟨rfl, changed⟩
            · have made := changed.makeDirectory path
              have there := changed.isDirectory path
              dsimp only
              generalize further.makeDirectory path = first at made ⊢
              generalize counterpart.makeDirectory path = second at made ⊢
              cases made with
              | ok trees => exact ⟨rfl, trees⟩
              | error cause =>
                  dsimp only
                  rw [there]
                  split
                  · exact ⟨rfl, changed⟩
                  · exact ⟨rfl, changed⟩
          · rw [there]
            split
            · exact ⟨rfl, trees⟩
            · exact ⟨rfl, trees⟩

theorem makeDirectories (trees : tree.Alike related other) (path : Path) :
    Reworked related (tree.makeDirectories path)
      (other.makeDirectories path) :=
  trees.makeFirst _

theorem writeFile (reflexive : ∀ content, related content content)
    (trees : tree.Alike related other) (path : Path) (content : List UInt8) :
    Matched (Alike related) (tree.writeFile path content)
      (other.writeFile path content) := by
  rw [FileTree.writeFile, FileTree.writeFile]
  split
  · exact .error _
  have placed := alike_walkFrom trees .made path.bytes (walkNames path.bytes)
  rw [place, place]
  generalize tree.walkFrom .made _ _ = first at placed ⊢
  generalize other.walkFrom .made _ _ = second at placed ⊢
  cases placed with
  | error cause => exact .error _
  | ok places =>
      cases places with
      | vacant location =>
          exact .ok (trees.insert location (.file (reflexive content)))
      | @found visit counterpart visits =>
          have nodes := visits.node
          have location := visits.location
          dsimp only
          generalize visit.node = node at nodes ⊢
          generalize counterpart.node = twin at nodes ⊢
          cases nodes with
          | directory inside => exact .error _
          | link target => exact .error _
          | file like =>
              dsimp only
              rw [location]
              exact .ok (trees.replace _ (.file (reflexive content)))
          | device kind =>
              cases kind with
              | null | zero => exact .ok trees
              | barred cause => exact .error _
              | full =>
                  dsimp only
                  split
                  · exact .ok trees
                  · exact .error _

theorem makeLink (trees : tree.Alike related other) (path target : Path) :
    Matched (Alike related) (tree.makeLink path target)
      (other.makeLink path target) := by
  rw [FileTree.makeLink, FileTree.makeLink, trees.vacancy]
  split
  · exact .error _
  split
  · exact .error _
  split
  · exact .error _
  split
  · exact .error _
  · exact .ok (trees.insert _ (.link target.bytes))

/-! ### Taking away -/

theorem removeDirectory (trees : tree.Alike related other) (path : Path) :
    Matched (Alike related) (tree.removeDirectory path)
      (other.removeDirectory path) := by
  have last := trees.lastName path
  rw [FileTree.removeDirectory, FileTree.removeDirectory]
  generalize tree.lastName path = first at last ⊢
  generalize other.lastName path = second at last ⊢
  cases last with
  | error cause => exact .error _
  | @ok found counterpart holds =>
      obtain ⟨directory, name⟩ := found
      obtain ⟨twin, same⟩ := counterpart
      obtain ⟨visits, rfl⟩ := holds
      rcases same with _ | name
      · exact .error _
      dsimp only
      split
      · exact .error _
      split
      · exact .error _
      have descended := alike_descend visits name
      generalize descend directory name = first at descended ⊢
      generalize descend twin name = second at descended ⊢
      cases descended with
      | error cause => exact .error _
      | ok places =>
          cases places with
          | vacant location => exact .error _
          | found below =>
              dsimp only
              rw [below.node.isDirectory, below.node.hasChildren,
                below.location]
              split
              · exact .error _
              split
              · exact .error _
              · exact .ok (trees.erase _)

theorem unlink (trees : tree.Alike related other) (path : Path) :
    Matched (Alike related) (tree.unlink path) (other.unlink path) := by
  have last := trees.lastName path
  rw [FileTree.unlink, FileTree.unlink]
  generalize tree.lastName path = first at last ⊢
  generalize other.lastName path = second at last ⊢
  cases last with
  | error cause => exact .error _
  | @ok found counterpart holds =>
      obtain ⟨directory, name⟩ := found
      obtain ⟨twin, same⟩ := counterpart
      obtain ⟨visits, rfl⟩ := holds
      dsimp only
      split
      · exact .error _
      have descended := alike_descend visits (same.getD [])
      generalize descend directory _ = first at descended ⊢
      generalize descend twin _ = second at descended ⊢
      cases descended with
      | error cause => exact .error _
      | ok places =>
          cases places with
          | vacant location => exact .error _
          | found below =>
              dsimp only
              rw [below.node.isDirectory, below.location]
              split
              · exact .error _
              split
              · exact .error _
              · exact .ok (trees.erase _)

theorem clear (trees : tree.Alike related other) (path : Path)
    (location : Location) :
    Reworked related (tree.clear path location)
      (other.clear path location) := by
  have emptied := trees.empty location
  have removed := emptied.removeDirectory path
  rw [FileTree.clear, FileTree.clear]
  generalize (tree.empty location).removeDirectory path = first at removed ⊢
  generalize (other.empty location).removeDirectory path = second at removed ⊢
  cases removed with
  | ok trees => exact ⟨rfl, trees⟩
  | error cause =>
      split
      · exact ⟨rfl, emptied⟩
      · exact ⟨rfl, emptied⟩
      · next failed => cases failed

/-- What leaves the files alone when it fails keeps them alike. -/
theorem reworked_of_matched (trees : tree.Alike related other)
    {changed counterpart : Except SystemError FileTree} :
    Matched (Alike related) changed counterpart →
      Reworked related
        (match changed with
          | .error cause => (.error cause, tree)
          | .ok changed => (.ok (), changed))
        (match counterpart with
          | .error cause => (.error cause, other)
          | .ok changed => (.ok (), changed)) := by
  intro matched
  cases matched with
  | error cause => exact ⟨rfl, trees⟩
  | ok changed => exact ⟨rfl, changed⟩

theorem remove (trees : tree.Alike related other) (path : Path) :
    Reworked related (tree.remove path) (other.remove path) := by
  have plain := reworked_of_matched trees (trees.unlink path)
  have placed := alike_walkFrom trees .kept path.bytes (walkNames path.bytes)
  rw [FileTree.remove, FileTree.remove, place, place]
  generalize tree.walkFrom .kept _ _ = here at placed ⊢
  generalize other.walkFrom .kept _ _ = there at placed ⊢
  split
  · exact plain
  cases placed with
  | error cause => exact plain
  | ok places =>
      cases places with
      | vacant location => exact plain
      | found visits =>
          dsimp only
          rw [visits.node.isDirectory, visits.location]
          split
          · exact trees.clear path _
          · exact plain

/-! ### Renaming -/

theorem relocate (trees : tree.Alike related other)
    (source target : Location) :
    Matched (Alike related) (tree.relocate source target)
      (other.relocate source target) := by
  have moved := trees.nodeAt source
  have replaced := trees.nodeAt target
  rw [FileTree.relocate, FileTree.relocate]
  split
  · exact .ok trees
  cases here : tree.nodeAt source <;> cases there : other.nodeAt source <;>
    rw [here, there] at moved
  · exact .error _
  · exact moved.elim
  · exact moved.elim
  cases before : tree.nodeAt target <;> cases after : other.nodeAt target <;>
    rw [before, after] at replaced
  · exact .ok (trees.move source target)
  · exact replaced.elim
  · exact replaced.elim
  dsimp only
  rw [Node.Alike.isDirectory moved, Node.Alike.isDirectory replaced,
    Node.Alike.hasChildren replaced]
  split
  · exact .error _
  split
  · exact .error _
  split
  · exact .error _
  · exact .ok ((trees.erase target).move source target)

theorem renameWithin (trees : tree.Alike related other) (slashes : Bool)
    {before after counterpart twin : Visit}
    (here : before.Alike related counterpart) (there : after.Alike related twin)
    (old new : Name) :
    Matched (Alike related) (tree.renameWithin slashes before after old new)
      (other.renameWithin slashes counterpart twin old new) := by
  have leaving := alike_descend here old
  have coming := alike_descend there new
  rw [FileTree.renameWithin, FileTree.renameWithin, here.location,
    there.location]
  generalize descend before old = first at leaving ⊢
  generalize descend counterpart old = second at leaving ⊢
  generalize descend after new = third at coming ⊢
  generalize descend twin new = fourth at coming ⊢
  cases leaving with
  | error cause => exact .error _
  | ok places =>
      cases places with
      | vacant location => exact .error _
      | found moved =>
          cases coming with
          | error cause => exact .error _
          | ok free =>
              dsimp only
              rw [moved.node.isDirectory]
              split
              · exact .error _
              split
              · exact .error _
              split
              · exact .error _
              · exact trees.relocate _ _

theorem rename (trees : tree.Alike related other) (path destination : Path) :
    Matched (Alike related) (tree.rename path destination)
      (other.rename path destination) := by
  have leaving := trees.lastName path
  have coming := trees.lastName destination
  rw [FileTree.rename, FileTree.rename]
  split
  · exact .error _
  generalize tree.lastName path = first at leaving ⊢
  generalize other.lastName path = second at leaving ⊢
  generalize tree.lastName destination = third at coming ⊢
  generalize other.lastName destination = fourth at coming ⊢
  cases leaving with
  | error cause => exact .error _
  | @ok found counterpart holds =>
      obtain ⟨before, old⟩ := found
      obtain ⟨twin, same⟩ := counterpart
      obtain ⟨here, rfl⟩ := holds
      cases coming with
      | error cause => rcases same with _ | old <;> exact .error _
      | @ok found counterpart holds =>
          obtain ⟨after, new⟩ := found
          obtain ⟨other, also⟩ := counterpart
          obtain ⟨there, rfl⟩ := holds
          rcases same with _ | old <;> rcases also with _ | new
          · exact .error _
          · exact .error _
          · exact .error _
          · dsimp only
            split
            · exact trees.renameWithin _ here there old new
            · exact .error _

end Alike

end FileTree

end MemoryWatch
