/-!
# Limits of the surroundings

How long a sequence can become, how deeply a document can be nested and how long the name of a file
can be is not for dates and times to say : it depends on the memory, the stack and the file system
that are at hand. `Limits` collects these numbers, and whatever may run into one of them takes them
as a parameter. All that is known of them is that there is memory for a line of a report.
-/

namespace CivilTime

/-- The limits of a memory, a stack and a file system. -/
structure Limits where
  /-- The items of the longest sequence that the memory has room for. -/
  items : Nat
  /-- How deeply the lists and objects of a document may be nested. -/
  nesting : Nat
  /-- The bytes that the name of a file may have. -/
  nameBytes : Nat
  /-- The bytes that a path may have. -/
  pathBytes : Nat
  /-- The memory has room for a line of a hundred characters. -/
  hundred_le : 100 ≤ items

/-- Limits for where none are given. -/
def Limits.usual : Limits :=
  ⟨Nat.pow 2 32, 990, 255, 4095, by decide⟩

end CivilTime
