import CivilTime.Field

/-!
# Attributes of a field

A field keeps its value as an attribute named `value`, and may be given further ones. Only the
root's own fields are frozen altogether; a field of any other kind refuses to have its `value`
changed or deleted and nothing else (`Instance.isFrozen`).

Three names are not kept among the attributes. The class can be neither changed nor deleted here,
the place for weak references cannot be written, and the mapping of all attributes can be replaced
or deleted as a whole, after which the value is zero again, the default of every kind.
-/

namespace CivilTime

/-- A field with its attributes. -/
structure Instance where
  kind : Kind
  members : List (String × Value)

namespace Instance

/-- A field with no other attribute than its value. -/
def ofField (f : Field) : Instance :=
  ⟨f.kind, [("value", f.value)]⟩

/-- The value a field wraps, zero if no attribute says otherwise. -/
def value (i : Instance) : Value :=
  (lookup "value" i.members).getD (.int 0)

/-- The field without its further attributes. -/
def toField (i : Instance) : Field :=
  ⟨i.kind, i.value⟩

/-- Whether an attribute may not be changed. -/
def isFrozen (i : Instance) (name : String) : Bool :=
  match i.kind with
  | .root => true
  | _ => name = "value"

/-- The field after an attribute is assigned. -/
def assign (i : Instance) (name : String) (v : Value) : Attempt Instance :=
  if i.isFrozen name then .error (.frozen (.assign name))
  else if name = "__class__" then .error (.type (.classAssigned v.typeName))
  else if name = "__weakref__" then
    .error (.member (.notWritable Kind.root.typeName name))
  else if name = "__dict__" then
    match v with
    | .dict entries => .ok { i with members := entries }
    | _ => .error (.type (.membersAssigned v.typeName))
  else
    .ok { i with members := insertEntry i.members name v }

/-- The field after an attribute is deleted. -/
def delete (i : Instance) (name : String) : Attempt Instance :=
  if i.isFrozen name then .error (.frozen (.delete name))
  else if name = "__class__" then .error (.type .classDeleted)
  else if name = "__weakref__" then
    .error (.member (.notWritable Kind.root.typeName name))
  else if name = "__dict__" then
    .ok { i with members := [] }
  else if i.members.any fun m => m.1 = name then
    .ok { i with members := i.members.filter fun m => m.1 ≠ name }
  else
    .error (.member (.absent i.kind.typeName name))

end Instance

end CivilTime
