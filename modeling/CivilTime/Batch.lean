import CivilTime.DateTime.Wire

/-!
# Batches of date-times

A batch is a mapping from keys to what should be texts of date-times. `complaints` goes through all
of it and says of each entry that is none what is wrong with it; a batch without complaints is
valid. `readAll` reads the entries of a batch and fails at the first one that is no date-time.

Both leave a record in the log for each text they refuse.
-/

namespace CivilTime.Batch

/-- What is wrong with an entry, if anything is. -/
def complaint? (key : String) : Value → Traced (Option String)
  | .str text => do
    match ← (DateTime.parseText text).observe with
    | .ok _ => return none
    | .error (.dateTime e) => return some (key ++ ": " ++ e.message)
    | .error cause => Traced.fail cause
  | v => return some (key ++ ": expected a string, got " ++ v.typeName)

/-- What is wrong with the entries of a batch, in their order. -/
def complaints : List (String × Value) → Traced (List String)
  | [] => return []
  | (key, v) :: rest => do
    let found ← complaint? key v
    let others ← complaints rest
    return found.toList ++ others

/-- The date-times of a batch under their keys. -/
def readAll : List (String × Value) → Traced (List (String × DateTime))
  | [] => return []
  | (key, v) :: rest => do
    let dt ← DateTime.parse v
    let others ← readAll rest
    return (key, dt) :: others

end CivilTime.Batch
