/-!
# Heights of patterns

A pattern is a tree: groups, repetitions, classes, rows of things side by side
and choices between them stand above what they are made of.  Only patterns up
to some height can be read.
-/

namespace MemoryWatch

namespace Pattern

/-- The height of the highest pattern that can be read. -/
def tallest : Nat := 250

/-- The height of some things together.  A single one stands for itself. -/
def together : List Nat → Nat
  | [] => 0
  | [height] => height
  | heights => heights.foldl max 0 + 1

end Pattern

end MemoryWatch
