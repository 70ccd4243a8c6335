import MemoryWatch.Proofs.Likeness

/-!
# Where walks lead

A walk remembers the way that it has come.  As long as none of the directories
on it has been taken away, this way leads from the root of the tree to the node
that the walk has reached, so that the location of a visit is the place where
its node stands.  Only empty directories are visited that are gone.

Walks along the same names through trees that are alike take the same turns.
-/

namespace MemoryWatch

namespace Node

theorem at?_append (node : Node) (location further : Location) :
    node.at? (location ++ further) =
      (node.at? location).bind fun below => below.at? further := by
  induction location generalizing node with
  | nil => rfl
  | cons name rest ih =>
      rw [List.cons_append, at?, at?]
      cases node.child? name with
      | none => rfl
      | some child => exact ih child

end Node

namespace FileTree

/-! ## The way of a visit -/

/-- Each step of the way of a visit led into a child, or further down where a
directory is gone. -/
inductive Visit.Sound (root : Node) : Visit → Prop
  | top : Visit.Sound root { node := root }
  | enter {visit : Visit} {name : Name} {child : Node}
      (sound : Visit.Sound root visit)
      (found : visit.node.child? name = some child) :
      Visit.Sound root (visit.enter name child)
  | enterGone {visit : Visit} {name : Name} (sound : Visit.Sound root visit) :
      Visit.Sound root (visit.enterGone name)

namespace Visit

variable {root : Node} {visit : Visit}

theorem Sound.node_of_gone (sound : Sound root visit) (gone : visit.gone ≠ 0) :
    visit.node = .directory [] := by
  cases sound with
  | top => exact absurd rfl gone
  | enter sound found => exact absurd rfl gone
  | enterGone sound => rfl

theorem Sound.gone_eq_zero {name : Name} {child : Node}
    (sound : Sound root visit)
    (found : visit.node.child? name = some child) : visit.gone = 0 := by
  by_cases stands : visit.gone = 0
  · exact stands
  · rw [sound.node_of_gone stands] at found
    cases found

theorem location_enter (visit : Visit) (name : Name) (child : Node) :
    (visit.enter name child).location = visit.location ++ [name] := by
  simp [location, enter]

/-- A visit that is in the tree is at its location. -/
theorem Sound.at?_location (sound : Sound root visit)
    (stands : visit.gone = 0) :
    root.at? visit.location = some visit.node := by
  induction sound with
  | top => rfl
  | @enter visit name child sound found ih =>
      rw [location_enter, Node.at?_append, ih (sound.gone_eq_zero found),
        Option.bind_some, Node.at?, found]
      rfl
  | enterGone sound ih => cases stands

theorem Sound.parent (sound : Sound root visit) : Sound root visit.parent := by
  cases sound with
  | top => exact .top
  | @enter visit name child sound found =>
      have same : (visit.enter name child).parent = visit := by
        have stands := sound.gone_eq_zero found
        obtain ⟨node, way, gone⟩ := visit
        dsimp only at stands
        subst stands
        rfl
      rwa [same]
  | @enterGone visit name sound => exact sound

theorem Sound.down (sound : Sound root visit) (location : Location) :
    Sound root (visit.down location) := by
  induction location generalizing visit with
  | nil => exact sound
  | cons name rest ih =>
      rw [Visit.down]
      cases found : visit.node.child? name with
      | none => exact ih sound.enterGone
      | some child => exact ih (sound.enter found)

end Visit

/-- A found node is at the end of a sound way. -/
def Place.Sound (root : Node) : Place → Prop
  | .found visit => visit.Sound root
  | .vacant _ => True

variable {tree : FileTree} {here : Visit} {place : Place}

theorem sound_descend {root : Node} {name : Name} (sound : here.Sound root)
    (reached : descend here name = .ok place) : place.Sound root := by
  rw [descend] at reached
  split at reached
  · cases reached
  split at reached
  · cases reached
    exact sound
  split at reached
  · cases reached
    exact sound.parent
  split at reached
  · cases reached
  split at reached
  · cases reached
  split at reached
  · cases reached
    trivial
  · next child found =>
      cases reached
      exact sound.enter found

theorem sound_start (sound : here.Sound tree.root) (bytes : List UInt8) :
    (tree.start here bytes).Sound tree.root := by
  rw [start]
  split
  · exact .top
  · exact sound

/-- A walk is sound when it goes on soundly from the links that it meets. -/
theorem sound_walkWith {ending : Ending}
    {onLink : Visit → List Name → Except SystemError Place}
    (follow : ∀ here names place, Visit.Sound tree.root here →
      onLink here names = .ok place → place.Sound tree.root)
    {names : List Name} (sound : here.Sound tree.root)
    (reached : tree.walkWith ending onLink here names = .ok place) :
    place.Sound tree.root := by
  induction names generalizing here with
  | nil =>
      cases reached
      exact sound
  | cons name rest ih =>
      rw [walkWith] at reached
      split at reached
      · cases reached
      rcases descended : descend here name with cause | stop
      · rw [descended] at reached
        cases reached
      have next := sound_descend sound descended
      rw [descended] at reached
      cases stop with
      | vacant location =>
          dsimp only at reached
          split at reached
          · cases reached
            trivial
          · cases reached
      | found visit =>
          dsimp only at reached
          split at reached
          · split at reached
            · cases reached
              exact next
            · exact follow _ _ _ (sound_start sound _) reached
          · exact ih next reached

theorem sound_walk {ending : Ending} {links : Nat} {names : List Name}
    (sound : here.Sound tree.root)
    (reached : tree.walk ending links here names = .ok place) :
    place.Sound tree.root := by
  induction links generalizing here names place with
  | zero =>
      refine sound_walkWith ?_ sound reached
      intro _ _ _ _ followed
      cases followed
  | succ links ih => exact sound_walkWith (fun _ _ _ => ih) sound reached

theorem sound_walkFrom {ending : Ending} {bytes : List UInt8}
    {names : List Name}
    (reached : tree.walkFrom ending bytes names = .ok place) :
    place.Sound tree.root := by
  rw [walkFrom] at reached
  refine sound_walk ?_ reached
  split
  · exact .top
  · exact Visit.Sound.top.down _

/-- What a path names is at the location of the visit, unless it is a directory
that is gone. -/
theorem nodeAt_of_locate {path : Path} {visit : Visit}
    (located : tree.locate path = .ok visit) :
    tree.nodeAt visit.location = some visit.node ∨
      visit.node = .directory [] := by
  have sound : visit.Sound tree.root := by
    rw [locate] at located
    split at located
    · cases located
    · cases located
    · next reached =>
        cases located
        exact sound_walkFrom reached
  by_cases stands : visit.gone = 0
  · exact Or.inl (sound.at?_location stands)
  · exact Or.inr (sound.node_of_gone stands)

/-! ## Walks through trees that are alike -/

/-- Two visits have come the same way through nodes that are alike. -/
structure Visit.Alike (related : Likeness) (visit other : Visit) : Prop where
  node : Node.Alike related visit.node other.node
  way : Node.AlikeInside related visit.way other.way
  gone : other.gone = visit.gone

/-- Two walks have ended at the same place. -/
inductive Place.Alike (related : Likeness) : Place → Place → Prop
  | found {visit other : Visit} (alike : visit.Alike related other) :
      Place.Alike related (.found visit) (.found other)
  | vacant (location : Location) :
      Place.Alike related (.vacant location) (.vacant location)

end FileTree

/-- Two outcomes are the same failure, or successes that are related. -/
inductive Matched {ε α β : Type} (related : α → β → Prop) :
    Except ε α → Except ε β → Prop
  | error (cause : ε) : Matched related (.error cause) (.error cause)
  | ok {value : α} {other : β} (holds : related value other) :
      Matched related (.ok value) (.ok other)

namespace FileTree

variable {related : Likeness} {tree other : FileTree} {here there : Visit}

namespace Visit

variable {visit counterpart : Visit}

theorem locations_of_alike :
    {way others : List (Name × Node)} →
      Node.AlikeInside related way others →
        others.map Prod.fst = way.map Prod.fst
  | _, _, .nil => rfl
  | _, _, .cons first rest => by
      rw [List.map_cons, List.map_cons, locations_of_alike rest]

theorem Alike.location (alike : visit.Alike related counterpart) :
    counterpart.location = visit.location := by
  rw [Visit.location, Visit.location, locations_of_alike alike.way]

theorem Alike.top (trees : tree.Alike related other) :
    tree.top.Alike related other.top :=
  ⟨trees.root, .nil, rfl⟩

theorem Alike.enter (alike : visit.Alike related counterpart) (name : Name)
    {child twin : Node} (below : Node.Alike related child twin) :
    (visit.enter name child).Alike related (counterpart.enter name twin) :=
  ⟨below, .cons alike.node alike.way, rfl⟩

theorem Alike.enterGone (alike : visit.Alike related counterpart)
    (name : Name) :
    (visit.enterGone name).Alike related (counterpart.enterGone name) :=
  ⟨.directory .nil, .cons alike.node alike.way,
    congrArg (· + 1) alike.gone⟩

theorem Alike.parent (alike : visit.Alike related counterpart) :
    visit.parent.Alike related counterpart.parent := by
  obtain ⟨node, way, gone⟩ := visit
  obtain ⟨twin, others, missing⟩ := counterpart
  obtain ⟨nodes, ways, same⟩ := alike
  dsimp only at nodes ways same
  subst same
  cases ways with
  | nil => exact ⟨nodes, .nil, rfl⟩
  | cons first rest => exact ⟨first, rest, rfl⟩

theorem Alike.down (alike : visit.Alike related counterpart)
    (location : Location) :
    (visit.down location).Alike related (counterpart.down location) := by
  induction location generalizing visit counterpart with
  | nil => exact alike
  | cons name rest ih =>
      have found := alike.node.child? name
      rw [Visit.down, Visit.down]
      cases first : visit.node.child? name <;>
        cases second : counterpart.node.child? name <;>
        rw [first, second] at found
      · exact ih (alike.enterGone name)
      · exact found.elim
      · exact found.elim
      · exact ih (alike.enter name found)

end Visit

theorem alike_descend (alike : here.Alike related there) (name : Name) :
    Matched (Place.Alike related) (descend here name)
      (descend there name) := by
  rw [descend, descend, alike.node.isDirectory, alike.gone]
  split
  · exact .error _
  split
  · exact .ok (.found alike)
  split
  · exact .ok (.found alike.parent)
  split
  · exact .error _
  split
  · exact .error _
  have found := alike.node.child? name
  cases first : here.node.child? name <;>
    cases second : there.node.child? name <;> rw [first, second] at found
  · rw [alike.location]
    exact .ok (.vacant _)
  · exact found.elim
  · exact found.elim
  · exact .ok (.found (alike.enter name found))

theorem alike_start (trees : tree.Alike related other)
    (alike : here.Alike related there) (bytes : List UInt8) :
    (tree.start here bytes).Alike related (other.start there bytes) := by
  rw [start, start]
  split
  · exact .top trees
  · exact alike

/-- Walks take the same turns when they go on alike from the links that they
meet. -/
theorem alike_walkWith (trees : tree.Alike related other) (ending : Ending)
    {onLink onTwin : Visit → List Name → Except SystemError Place}
    (follow : ∀ here there names, Visit.Alike related here there →
      Matched (Place.Alike related) (onLink here names) (onTwin there names))
    (names : List Name) (alike : here.Alike related there) :
    Matched (Place.Alike related) (tree.walkWith ending onLink here names)
      (other.walkWith ending onTwin there names) := by
  induction names generalizing here there with
  | nil => exact .ok (.found alike)
  | cons name rest ih =>
      rw [walkWith, walkWith, alike.node.isDirectory]
      split
      · exact .error _
      have descended := alike_descend alike name
      generalize descend here name = first at descended
      generalize descend there name = second at descended
      cases descended with
      | error cause => exact .error cause
      | ok stops =>
          cases stops with
          | vacant location =>
              dsimp only
              split
              · exact .ok (.vacant location)
              · exact .error _
          | @found visit counterpart next =>
              have further := ih next
              have stopped : Place.Alike related (.found visit)
                (.found counterpart) := .found next
              obtain ⟨node, way, gone⟩ := visit
              obtain ⟨twin, others, missing⟩ := counterpart
              have nodes := next.node
              dsimp only at nodes ⊢
              cases nodes with
              | directory inside => exact further
              | file like => exact further
              | device kind => exact further
              | link target =>
                  dsimp only
                  split
                  · exact .ok stopped
                  · exact follow _ _ _ (alike_start trees alike target)

theorem alike_walk (trees : tree.Alike related other) (ending : Ending)
    (links : Nat) (names : List Name) (alike : here.Alike related there) :
    Matched (Place.Alike related) (tree.walk ending links here names)
      (other.walk ending links there names) := by
  induction links generalizing here there names with
  | zero => exact alike_walkWith trees ending (fun _ _ _ _ => .error _) _ alike
  | succ links ih =>
      exact alike_walkWith trees ending (fun _ _ names near => ih names near) _
        alike

theorem alike_walkFrom (trees : tree.Alike related other) (ending : Ending)
    (bytes : List UInt8) (names : List Name) :
    Matched (Place.Alike related) (tree.walkFrom ending bytes names)
      (other.walkFrom ending bytes names) := by
  rw [walkFrom, walkFrom]
  refine alike_walk trees ending linkLimit names ?_
  split
  · exact .top trees
  · rw [trees.workingDirectory]
    exact (Visit.Alike.top trees).down _

theorem alike_locate (trees : tree.Alike related other) (path : Path) :
    Matched (Visit.Alike related) (tree.locate path) (other.locate path) := by
  have placed := alike_walkFrom trees .followed path.bytes
    (walkNames path.bytes)
  rw [locate, locate, place, place]
  generalize tree.walkFrom .followed path.bytes _ = first at placed
  generalize other.walkFrom .followed path.bytes _ = second at placed
  cases placed with
  | error cause => exact .error cause
  | ok stops =>
      cases stops with
      | vacant location => exact .error _
      | found alike => exact .ok alike

theorem alike_resolve (trees : tree.Alike related other) (path : Path) :
    Matched (Visit.Alike related) (tree.resolve path)
      (other.resolve path) := by
  rw [resolve, resolve]
  split
  · exact .error _
  · exact alike_locate trees path

end FileTree

end MemoryWatch
