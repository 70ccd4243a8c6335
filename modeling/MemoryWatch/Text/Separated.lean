/-!
# Separated text

Paths, log settings and the like are sequences of parts with a separator
between them.
-/

namespace MemoryWatch

namespace Separated

/-- The parts between the separators.  There is always at least one part, and a
part may be empty. -/
def parts {α : Type} [DecidableEq α] (separator : α) : List α → List (List α)
  | [] => [[]]
  | item :: rest =>
    if item = separator then
      [] :: parts separator rest
    else
      match parts separator rest with
      | [] => [[item]]
      | part :: others => (item :: part) :: others

end Separated

end MemoryWatch
