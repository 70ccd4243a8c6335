import MemoryWatch.Cgroup
import MemoryWatch.Proofs.Ancestry
import Mathlib.Data.List.Basic

/-!
# Components of joined paths

Paths are joined by their bytes and compared by their components.  A name that
is put below a directory becomes the last component, and all others are those of
the directory, whatever slashes and dots its path ends in: a slash in front of
the name ends a part, and an empty part counts as little as none at all.

So paths are equivalent exactly when the paths of a file below them are.  The
two control files of a cgroup have different names, and therefore no path of the
one is a path of the other.
-/

namespace MemoryWatch

namespace Path

/-! ## Paths with a slash inside -/

theorem segments_append (front back : List UInt8) :
    segments (front ++ slash :: back) = segments front ++ segments back :=
  Separated.parts_append front back

theorem head?_segments_append (front back : List UInt8) :
    (segments (front ++ slash :: back)).head? = (segments front).head? := by
  rw [segments_append]
  exact List.head?_append_of_ne_nil _ (Separated.parts_ne_nil front)

/-- What stands behind a slash does not decide how a path begins. -/
theorem leading_append (front back other : List UInt8) :
    leading ⟨front ++ slash :: back⟩ = leading ⟨front ++ slash :: other⟩ := by
  have absolute : isAbsolute ⟨front ++ slash :: back⟩ =
      isAbsolute ⟨front ++ slash :: other⟩ := by
    cases front <;> rfl
  rw [leading, leading, absolute, head?_segments_append,
    head?_segments_append]

/-- A slash behind some bytes does not decide it either. -/
theorem leading_append_of_ne_nil {front : List UInt8} (nonempty : front ≠ [])
    (back : List UInt8) :
    leading ⟨front ++ slash :: back⟩ = leading ⟨front⟩ := by
  have absolute : isAbsolute ⟨front ++ slash :: back⟩ = isAbsolute ⟨front⟩ := by
    obtain ⟨first, rest, rfl⟩ := List.exists_cons_of_ne_nil nonempty
    rfl
  rw [leading, leading, absolute, head?_segments_append]

/-! ## Names below a directory -/

/-- A name that is a component of its own: it is neither empty nor made of one
or two dots, and no slash divides it. -/
structure IsProper (name : List UInt8) : Prop where
  component : component? name = some (.name name)
  undivided : slash ∉ name

namespace IsProper

variable {name : List UInt8}

theorem segments (proper : IsProper name) : Path.segments name = [name] :=
  Separated.parts_of_not_mem proper.undivided

theorem leading (proper : IsProper name) : Path.leading ⟨name⟩ = [] := by
  have relative : name.head? ≠ some slash := fun first =>
    proper.undivided (List.mem_of_mem_head? first)
  have plain : name ≠ [dot] := by
    rintro rfl
    cases proper.component
  rw [Path.leading, proper.segments]
  simp [isAbsolute, relative, plain]

/-- Behind a slash the name is the last component. -/
theorem components_append (proper : IsProper name) (front : List UInt8) :
    components ⟨front ++ slash :: name⟩ =
      Path.leading ⟨front ++ slash :: name⟩ ++
        (Path.segments front).filterMap component? ++ [.name name] := by
  have last : [name].filterMap component? = [.name name] :=
    List.filterMap_cons_some proper.component
  rw [components, segments_append, List.filterMap_append, proper.segments,
    last, List.append_assoc]

/-- A name below a directory is one more component of its path. -/
theorem components_join (proper : IsProper name) (directory : Path) :
    (directory.join name).components =
      directory.components ++ [.name name] := by
  obtain ⟨bytes⟩ := directory
  rw [join]
  split
  · next glued =>
      rcases Bool.or_eq_true_iff.mp glued with empty | ends
      · obtain rfl : bytes = [] := List.isEmpty_iff.mp empty
        change components ⟨name⟩ = [.name name]
        rw [components, proper.leading, proper.segments]
        exact List.filterMap_cons_some proper.component
      · obtain ⟨front, rfl⟩ :=
          List.getLast?_eq_some_iff.mp (of_decide_eq_true ends)
        -- The empty part behind the last slash gives way to the name.
        have empty : (Path.segments []).filterMap component? = [] := rfl
        rw [List.append_assoc]
        change components ⟨front ++ slash :: name⟩ = _
        rw [proper.components_append, leading_append front name [],
          components, segments_append, List.filterMap_append, empty,
          List.append_nil]
  · next apart =>
      have nonempty : bytes ≠ [] := by
        rintro rfl
        exact apart rfl
      rw [proper.components_append, leading_append_of_ne_nil nonempty]
      rfl

theorem equivalent_join_iff (proper : IsProper name) (first second : Path) :
    (first.join name).equivalent (second.join name) = true ↔
      first.equivalent second = true := by
  rw [equivalent, equivalent, decide_eq_true_iff, decide_eq_true_iff,
    proper.components_join, proper.components_join]
  exact List.append_left_inj _

/-- Files of different names are never the same. -/
theorem not_equivalent_join {other : List UInt8} (proper : IsProper name)
    (properToo : IsProper other) (different : name ≠ other)
    (first second : Path) :
    (first.join name).equivalent (second.join other) = false := by
  rw [equivalent, decide_eq_false_iff_not, proper.components_join,
    properToo.components_join]
  intro same
  obtain ⟨_, lasts⟩ := List.append_inj' same rfl
  cases lasts
  exact different rfl

end IsProper

end Path

namespace Cgroup

theorem isProper_eventControlName :
    Path.IsProper (Utf8.ofString eventControlName) :=
  ⟨by decide, by decide⟩

theorem isProper_oomControlName :
    Path.IsProper (Utf8.ofString oomControlName) :=
  ⟨by decide, by decide⟩

/-- The path of a control file has the components of the cgroup's path and one
more.  Two paths of cgroups are equivalent exactly when those of the files for
registrations are, and exactly when those of the files with the events are; and
a file of the one kind is never equivalent to one of the other kind. -/
theorem components_controls (first second : Path) :
    (eventControl first).components =
        first.components ++ [.name (Utf8.ofString eventControlName)] ∧
      (oomControl first).components =
        first.components ++ [.name (Utf8.ofString oomControlName)] ∧
      (first.equivalent second = true ↔
        (eventControl first).equivalent (eventControl second) = true) ∧
      (first.equivalent second = true ↔
        (oomControl first).equivalent (oomControl second) = true) ∧
      (eventControl first).equivalent (oomControl second) = false := by
  have event := isProper_eventControlName
  have oom := isProper_oomControlName
  refine ⟨event.components_join first, oom.components_join first,
    (event.equivalent_join_iff first second).symm,
    (oom.equivalent_join_iff first second).symm, ?_⟩
  exact event.not_equivalent_join oom (by decide) first second

end Cgroup

end MemoryWatch
