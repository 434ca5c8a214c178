import CivilTime.DateTime

/-!
# Open records

A record is a collection of named values of any type. It can stand for a date-time wherever only
the parts of one are asked for, even if some of them are missing.
-/

namespace CivilTime

/-- Named values. -/
structure Record where
  members : List (String × Value)

namespace Record

/-- The name of the type of records. -/
def typeName : String := "types.SimpleNamespace"

/-- The value under a name. -/
def member (r : Record) (name : String) : Attempt Value :=
  match lookup name r.members with
  | some v => .ok v
  | none => .error (.member (.ofObject typeName name))

/-- Whether there is a value under a name. -/
def has (r : Record) (name : String) : Bool :=
  (lookup name r.members).isSome

end Record

end CivilTime
