import MemoryWatch.Proofs.Walks

/-!
# The directory above a file

A path that names something below a directory also shows that the directory is
there.  The names along which the longer path is walked are those of the shorter
one and one more, so that the walk to the file comes through the directory and
has followed the same links until then.  A slash at the end of the shorter path
asks for a directory, which it is.
-/

namespace MemoryWatch

namespace Separated

variable {α : Type} [DecidableEq α] {separator : α}

theorem parts_ne_nil (items : List α) : parts separator items ≠ [] := by
  cases items with
  | nil => simp [parts]
  | cons item rest =>
      rw [parts]
      split
      · simp
      · split <;> simp

/-- The parts on both sides of a separator. -/
theorem parts_append (front back : List α) :
    parts separator (front ++ separator :: back) =
      parts separator front ++ parts separator back := by
  induction front with
  | nil => simp [parts]
  | cons item rest ih =>
      rw [List.cons_append, parts, parts, ih]
      split
      · rfl
      · cases divided : parts separator rest with
        | nil => exact absurd divided (parts_ne_nil rest)
        | cons part others => rfl

theorem parts_of_not_mem {items : List α} (undivided : separator ∉ items) :
    parts separator items = [items] := by
  induction items with
  | nil => rfl
  | cons item rest ih =>
      obtain ⟨different, later⟩ := not_or.mp (mt List.mem_cons.mpr undivided)
      rw [parts, if_neg (Ne.symm different), ih later]

end Separated

namespace FileTree

variable {tree : FileTree} {here : Visit} {place : Place}

/-! ## The names of a joined path -/

theorem plainNames_append (front back : List UInt8) :
    plainNames (front ++ Path.slash :: back) =
      plainNames front ++ plainNames back := by
  rw [plainNames, Path.segments, Separated.parts_append, List.filter_append]
  rfl

/-- A name is one that can stand in a directory. -/
structure IsName (name : Name) : Prop where
  nonempty : name ≠ []
  undivided : Path.slash ∉ name

namespace IsName

variable {name : Name}

theorem plainNames (isName : IsName name) :
    FileTree.plainNames name = [name] := by
  rw [FileTree.plainNames, Path.segments,
    Separated.parts_of_not_mem isName.undivided]
  simp [isName.nonempty]

theorem plainNames_join (isName : IsName name) (root : Path) :
    FileTree.plainNames (root.join name).bytes =
      FileTree.plainNames root.bytes ++ [name] := by
  rw [Path.join]
  split
  · next glued =>
      rw [Bool.or_eq_true] at glued
      rcases glued with empty | ends
      · rw [List.isEmpty_iff.mp empty]
        exact isName.plainNames
      · obtain ⟨front, split⟩ :=
          List.getLast?_eq_some_iff.mp (of_decide_eq_true ends)
        rw [split, List.append_assoc]
        change FileTree.plainNames (front ++ Path.slash :: name) =
          FileTree.plainNames (front ++ Path.slash :: []) ++ [name]
        rw [plainNames_append, plainNames_append, isName.plainNames]
        simp [FileTree.plainNames, Path.segments, Separated.parts]
  · rw [plainNames_append, isName.plainNames]

theorem getLast?_join (isName : IsName name) (root : Path) :
    (root.join name).bytes.getLast? ≠ some Path.slash := by
  have ending : (root.join name).bytes.getLast? = name.getLast? := by
    obtain ⟨last, some⟩ := Option.ne_none_iff_exists'.mp
      (mt List.getLast?_eq_none_iff.mp isName.nonempty)
    rw [Path.join]
    split <;> simp [List.getLast?_append, List.getLast?_cons, some]
  rw [ending]
  intro last
  exact isName.undivided (List.mem_of_getLast? last)

/-- The longer path is walked along one more name. -/
theorem walkNames_join (isName : IsName name) (root : Path) :
    walkNames (root.join name).bytes =
      FileTree.plainNames root.bytes ++ [name] := by
  rw [walkNames, if_neg fun ends => isName.getLast?_join root ends.1,
    isName.plainNames_join]

end IsName

/-! ## Walks that go on -/

section Walking

variable {onLink : Visit → List Name → Except SystemError Place}

/-- How a walk that reaches a node takes its first name. -/
theorem walkWith_cons_iff {name : Name} {rest : List Name} {goal : Visit} :
    tree.walkWith .followed onLink here (name :: rest) = .ok (.found goal) ↔
      ∃ visit, descend here name = .ok (.found visit) ∧
        ((∃ target, visit.node = .link target ∧
            onLink (tree.start here target) (walkNames target ++ rest) =
              .ok (.found goal)) ∨
          (∀ target, visit.node ≠ .link target) ∧
            tree.walkWith .followed onLink visit rest = .ok (.found goal)) := by
  have followed : Ending.followed ≠ .made ∧ Ending.followed ≠ .kept := by
    decide
  rw [walkWith, if_neg fun made => followed.1 made.1]
  rcases descend here name with cause | place
  · simp
  cases place with
  | vacant location =>
      dsimp only
      split <;> simp
  | found visit =>
      obtain ⟨node, way, gone⟩ := visit
      cases node <;> simp [followed.2]

theorem isDirectory_of_walkWith {ending : Ending} {name : Name}
    {rest : List Name}
    (reached : tree.walkWith ending onLink here (name :: rest) = .ok place) :
    here.node.isDirectory = true := by
  cases directory : here.node.isDirectory with
  | true => rfl
  | false => simp [walkWith, descend, directory] at reached

/-- A walk that goes on has come to a directory. -/
theorem walkWith_append {name : Name} {rest : List Name}
    (follow : ∀ here names goal,
      onLink here (names ++ name :: rest) = .ok (.found goal) →
        ∃ stop, onLink here names = .ok (.found stop) ∧
          stop.node.isDirectory = true)
    {names : List Name} {goal : Visit}
    (reached : tree.walkWith .followed onLink here (names ++ name :: rest) =
      .ok (.found goal)) :
    ∃ stop, tree.walkWith .followed onLink here names = .ok (.found stop) ∧
      stop.node.isDirectory = true := by
  induction names generalizing here with
  | nil => exact ⟨here, rfl, isDirectory_of_walkWith reached⟩
  | cons first others ih =>
      rw [List.cons_append, walkWith_cons_iff] at reached
      obtain ⟨visit, descended, ⟨target, link, further⟩ | ⟨plain, further⟩⟩ :=
        reached
      · rw [← List.append_assoc] at further
        obtain ⟨stop, stopped, directory⟩ := follow _ _ _ further
        exact ⟨stop, walkWith_cons_iff.mpr
          ⟨visit, descended, Or.inl ⟨target, link, stopped⟩⟩, directory⟩
      · obtain ⟨stop, stopped, directory⟩ := ih further
        exact ⟨stop, walkWith_cons_iff.mpr
          ⟨visit, descended, Or.inr ⟨plain, stopped⟩⟩, directory⟩

/-- A walk to a directory may ask for one. -/
theorem walkWith_slash
    (follow : ∀ here names stop, onLink here names = .ok (.found stop) →
      stop.node.isDirectory = true →
        onLink here (names ++ [[]]) = .ok (.found stop))
    {names : List Name} {stop : Visit}
    (reached : tree.walkWith .followed onLink here names = .ok (.found stop))
    (directory : stop.node.isDirectory = true) :
    tree.walkWith .followed onLink here (names ++ [[]]) =
      .ok (.found stop) := by
  induction names generalizing here with
  | nil =>
      cases reached
      refine walkWith_cons_iff.mpr ⟨stop, by simp [descend, directory], ?_⟩
      refine Or.inr ⟨?_, rfl⟩
      intro target link
      rw [link] at directory
      cases directory
  | cons first others ih =>
      obtain ⟨visit, descended, ⟨target, link, further⟩ | ⟨plain, further⟩⟩ :=
        walkWith_cons_iff.mp reached
      · have stopped := follow _ _ _ further directory
        rw [List.append_assoc] at stopped
        exact walkWith_cons_iff.mpr
          ⟨visit, descended, Or.inl ⟨target, link, stopped⟩⟩
      · exact walkWith_cons_iff.mpr
          ⟨visit, descended, Or.inr ⟨plain, ih further⟩⟩

end Walking

theorem walk_append {links : Nat} {name : Name} {rest names : List Name}
    {goal : Visit}
    (reached : tree.walk .followed links here (names ++ name :: rest) =
      .ok (.found goal)) :
    ∃ stop, tree.walk .followed links here names = .ok (.found stop) ∧
      stop.node.isDirectory = true := by
  induction links generalizing here names goal with
  | zero =>
      refine walkWith_append ?_ reached
      intro _ _ _ followed
      cases followed
  | succ links ih => exact walkWith_append (fun _ _ _ => ih) reached

theorem walk_slash {links : Nat} {names : List Name} {stop : Visit}
    (reached : tree.walk .followed links here names = .ok (.found stop))
    (directory : stop.node.isDirectory = true) :
    tree.walk .followed links here (names ++ [[]]) = .ok (.found stop) := by
  induction links generalizing here names stop with
  | zero =>
      refine walkWith_slash ?_ reached directory
      intro _ _ _ followed
      cases followed
  | succ links ih =>
      exact walkWith_slash (fun _ _ _ further => ih further) reached directory

/-! ## Paths that name something -/

theorem check_eq_ok_iff (path : Path) :
    check path = .ok () ↔
      hasNull path = false ∧ path.isEmpty = false ∧
        path.bytes.length ≤ longestPath := by
  rw [check]
  split
  · simp_all
  · split
    · simp_all
    · split <;> simp_all

/-- A shorter path is admitted where a longer one is. -/
theorem check_of_prefix {path longer : Path}
    (nonempty : path.isEmpty = false) (below : path.bytes <+: longer.bytes)
    (admitted : check longer = .ok ()) : check path = .ok () := by
  obtain ⟨clean, _, short⟩ := (check_eq_ok_iff longer).mp admitted
  refine (check_eq_ok_iff path).mpr
    ⟨?_, nonempty, Nat.le_trans below.length_le short⟩
  rw [hasNull, ← Bool.not_eq_true, List.contains_iff_mem] at clean ⊢
  exact fun found => clean (below.subset found)

/-- The names along which a path is walked are its plain names, and a slash at
its end asks for a directory. -/
theorem walkNames_cases (bytes : List UInt8) :
    walkNames bytes = plainNames bytes ∨
      walkNames bytes = plainNames bytes ++ [[]] := by
  rw [walkNames]
  split
  · exact Or.inr rfl
  · exact Or.inl rfl

theorem prefix_join (root : Path) (name : Name) :
    root.bytes <+: (root.join name).bytes := by
  rw [Path.join]
  split <;> exact List.prefix_append _ _

/-- A path below which a name stands for something names a directory, unless it
is empty. -/
theorem resolve_of_resolve_join {root : Path} {name : Name} {below : Visit}
    (isName : IsName name) (nonempty : root.isEmpty = false)
    (resolved : tree.resolve (root.join name) = .ok below) :
    ∃ above, tree.resolve root = .ok above ∧
      above.node.isDirectory = true := by
  have joined := prefix_join root name
  have begins : (root.join name).bytes.head? = root.bytes.head? := by
    have some : root.bytes ≠ [] := by simpa [Path.isEmpty] using nonempty
    obtain ⟨more, extended⟩ := joined
    rw [← extended, List.head?_append,
      List.head?_eq_some_head some, Option.some_or]
  rw [resolve] at resolved
  rcases admitted : check (root.join name) with cause | _
  · rw [admitted] at resolved
    cases resolved
  rw [admitted, locate, place, walkFrom, begins, isName.walkNames_join]
    at resolved
  rw [resolve, check_of_prefix nonempty joined admitted, locate, place,
    walkFrom]
  dsimp only at resolved ⊢
  generalize (if root.bytes.head? = some Path.slash then tree.top
    else tree.top.down tree.workingDirectory) = here at resolved ⊢
  split at resolved
  · cases resolved
  · cases resolved
  · next goal reached =>
      obtain ⟨above, stopped, directory⟩ := walk_append reached
      obtain plain | slashed := walkNames_cases root.bytes
      · rw [plain, stopped]
        exact ⟨above, rfl, directory⟩
      · rw [slashed, walk_slash stopped directory]
        exact ⟨above, rfl, directory⟩

end FileTree

end MemoryWatch
