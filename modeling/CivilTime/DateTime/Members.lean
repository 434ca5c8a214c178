import CivilTime.DateTime
import CivilTime.Field.Run
import CivilTime.Member

/-!
# Members of date-times

A date-time is frozen : no member of it can be assigned or deleted, whether there is one of that
name or not. A part is changed by making another date-time (`DateTime.bump`).

Besides its six parts a date-time has the members of its type (`DateTime.sharedMembers`). None of
them is a part, so no sum or difference makes another date-time of one.

A date-time can be in a set if its year and the values its fields wrap can be.
-/

namespace CivilTime.DateTime

/-! ## The members of the type -/

/-- The members of the type, by their names. -/
def sharedMembers : SharedMembers :=
  SharedMembers.common ++
  [("__module__", .text), ("__match_args__", .tuple), ("__weakref__", .plain "NoneType"),
    ("__dataclass_params__", .plain "_DataclassParams")] ++
  (SharedMember.plain "method").named
    ["parse", "try_new", "from_datetime", "to_wire", "__init__", "__post_init__", "__eq__",
      "__hash__", "__repr__", "__str__", "__setattr__", "__delattr__"] ++
  (SharedMember.plain "dict").named ["__dict__", "__annotations__", "__dataclass_fields__"]

/-- Looks a member up, be it a part or a member of the type. -/
def requireMember (name : String) : Attempt Unit :=
  match Part.ofName? name with
  | some _ => .ok ()
  | none => do
    let _ ← sharedMembers.require "DateTime" name

/-! ## Changing members -/

/-- The date-time after a member is assigned, which cannot be. -/
def assign (_ : DateTime) (name : String) (_ : Value) : Attempt DateTime :=
  .error (.frozen (.assign name))

/-- The date-time after a member is deleted, which cannot be. -/
def delete (_ : DateTime) (name : String) : Attempt DateTime :=
  .error (.frozen (.delete name))

/-- The date-time with an amount added to one of its parts or taken away from it. Where the sum is
that of a member of the type, there is no part to put it in. -/
def bump (dt : DateTime) (name : String) (op : Operation) (amount : Value) : Attempt DateTime :=
  match Part.ofName? name with
  | some p => do
    let v ← (dt.part p).combine op amount
    dt.replace [(p.name, v)]
  | none => do
    let m ← sharedMembers.require "DateTime" name
    m.combine op amount
    .error (.type (.unexpectedArgument name))

/-! ## Sets of date-times -/

/-- What the hash of a date-time depends on. -/
def requireHash (dt : DateTime) : Attempt HashKey := do
  return .tuple (← Part.all.mapM fun p => Field.requireHash (dt.part p))

end CivilTime.DateTime
