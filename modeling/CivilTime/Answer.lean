import CivilTime.DateTime.Members
import CivilTime.DateTime.Wire
import CivilTime.Display
import CivilTime.Finding

/-!
# Answers

Work with date-times gives a date-time or a finding (`Answer`). Whatever can be done with a
date-time can be tried with a finding as well. Two findings may be equal or ordered, but a finding
never equals a date-time, has none of its parts and cannot be made into another one; its text is
hardly ever that of a date-time.
-/

namespace CivilTime

/-- A date-time or a finding. -/
inductive Answer where
  | dateTime (dt : DateTime)
  | finding (f : Finding)

namespace Answer

/-- The name of an answer's type. -/
def typeName : Answer → String
  | .dateTime _ => "DateTime"
  | .finding f => f.typeName

/-! ## Texts -/

/-- An answer with its type showing. -/
def literal : Answer → String
  | .dateTime dt => dt.literal
  | .finding f => f.toValue.literal

/-- The literal, unless it would show an integer with too many digits. -/
def literal? : Answer → Attempt String
  | .dateTime dt => dt.literal?
  | .finding f => f.toValue.literal?

/-- The text of an answer : that on the wire for a date-time. -/
def text : Answer → Attempt String
  | .dateTime dt => dt.toWire
  | .finding f => f.toValue.display?

/-- An answer as something to be shown. -/
def subject : Answer → Subject
  | .dateTime dt => .dateTime dt
  | .finding f => .plain f.toValue

/-! ## Comparing answers -/

/-- Equality. A date-time equals date-times only. -/
def same : Answer → Answer → Bool
  | .dateTime a, .dateTime b => a.same b
  | .finding f, .finding g => f.same g
  | _, _ => false

/-- Strict order, which date-times do not have. -/
def less : Answer → Answer → Attempt Bool
  | .finding f, .finding g => f.less g
  | a, b => .error (.type (.ordering "<" a.typeName b.typeName))

/-- What the hash of an answer depends on. -/
def requireHash : Answer → Attempt HashKey
  | .dateTime dt => dt.requireHash
  | .finding f => Field.requireHash f.toValue

/-! ## Changing answers -/

/-- An answer after a member of it is assigned. -/
def assign (a : Answer) (name : String) (v : Value) : Attempt Answer :=
  match a with
  | .dateTime dt => (dt.assign name v).map .dateTime
  | .finding f => (f.assign name v).map .finding

/-- An answer after a member of it is deleted. -/
def delete (a : Answer) (name : String) : Attempt Answer :=
  match a with
  | .dateTime dt => (dt.delete name).map .dateTime
  | .finding f => (f.delete name).map .finding

/-- A date-time with some parts replaced. A finding has no parts. -/
def replace (a : Answer) (named : List (String × Value)) : Attempt DateTime :=
  match a with
  | .dateTime dt => dt.replace named
  | .finding _ => .error (.type .notReplaceable)

/-- A date-time with an amount added to one of its parts or taken away from it. The member is looked
up before the amount is made, and the sum is formed before it turns out that a finding has no
parts. -/
def bump (a : Answer) (name : String) (op : Operation) (amount : Attempt Value) :
    Attempt DateTime :=
  match a with
  | .dateTime dt => do
    DateTime.requireMember name
    dt.bump name op (← amount)
  | .finding f => do
    let m ← f.member name
    m.combine op (← amount)
    .error (.type .notReplaceable)

end Answer

end CivilTime
