import CivilTime.Value.Arithmetic

/-!
# Members of types

Besides what it holds, every value has the members of its type, such as ways to compare it and a
description of the type. They can be looked up by their names, and some of them take part in sums
and differences (`SharedMember.combine`), but none of them can be changed through a value.
-/

namespace CivilTime

/-- What a member of a type is, as far as sums and differences can tell. -/
inductive SharedMember where
  /-- A text, which can be joined to a text. -/
  | text
  /-- A whole number. -/
  | number (n : Int)
  /-- A tuple, which can be joined to a tuple only. -/
  | tuple
  /-- A member of a type without sums and differences. -/
  | plain (type : String)
  deriving DecidableEq, Repr

/-- Members by their names. -/
abbrev SharedMembers := List (String × SharedMember)

namespace SharedMember

/-- The same member under several names. -/
def named (m : SharedMember) (names : List String) : SharedMembers :=
  names.map fun name => (name, m)

/-- A function that comes with a type. -/
def builtin : SharedMember :=
  .plain "builtin_function_or_method"

/-- An operator that is bound to a value. -/
def wrapper : SharedMember :=
  .plain "method-wrapper"

/-- Forms the sum or difference of a member and an amount. What a text says does not matter, since
no sum is kept. -/
def combine (op : Operation) (amount : Value) : SharedMember → Attempt Unit
  | .text => do
    let _ ← (Value.str "").combine op amount
  | .number n => do
    let _ ← (Value.int n).combine op amount
  | .tuple =>
    match op with
    | .add => .error (.type (.concatenation "tuple" amount.typeName))
    | .sub => .error (.type (.operands op.symbol "tuple" amount.typeName))
  | .plain type => .error (.type (.operands op.symbol type amount.typeName))

end SharedMember

namespace SharedMembers

/-- The members that all types have. -/
def common : SharedMembers :=
  [("__class__", .plain "type"), ("__doc__", .text)] ++
  SharedMember.builtin.named
    ["__new__", "__init_subclass__", "__subclasshook__", "__dir__", "__format__", "__sizeof__",
      "__getstate__", "__reduce__", "__reduce_ex__"] ++
  SharedMember.wrapper.named ["__lt__", "__le__", "__gt__", "__ge__", "__ne__", "__getattribute__"]

/-- The members of a type that makes, compares and writes its values by plain operators. -/
def basic : SharedMembers :=
  common ++ SharedMember.wrapper.named
    ["__init__", "__eq__", "__repr__", "__str__", "__setattr__", "__delattr__"]

/-- The member of a name. -/
def require (members : SharedMembers) (type name : String) : Attempt SharedMember :=
  match lookup name members with
  | some m => .ok m
  | none => .error (.member (.ofObject type name))

end SharedMembers

end CivilTime
