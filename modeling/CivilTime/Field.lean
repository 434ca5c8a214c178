import CivilTime.Kind
import CivilTime.Numeral
import CivilTime.Value.Equality

/-!
# Fields

A field wraps a value under a kind. There are four ways to make one. `Field.new` puts the value in
and then checks it; `Field.tryFrom` checks first; `Field.parse` reads decimal text and goes on as
`tryFrom`; and `Field.unchecked` takes any value at all. The checked ways agree wherever the kind
declares a bound.

Two fields are equal if they are of the very same kind and wrap equal values. The hash of a field
depends on its value alone.
-/

namespace CivilTime

/-- A value wrapped under a kind. -/
structure Field where
  kind : Kind
  value : Value

namespace Field

/-- A field as a value. -/
def toValue (f : Field) : Value :=
  .field f.kind f.value

/-- The field a value is, if it is one. -/
def ofValue? : Value → Option Field
  | .field kind value => some ⟨kind, value⟩
  | _ => none

@[simp] theorem ofValue?_toValue (f : Field) : ofValue? f.toValue = some f := rfl

/-! ## Making fields -/

/-- A field of any value, without a check. -/
def unchecked (kind : Kind) (value : Value) : Field :=
  ⟨kind, value⟩

/-- The check of a field that holds its value already. -/
def validate (f : Field) : Attempt Unit :=
  match f.kind.declaration? with
  | none => .error (.member (.ofObject f.kind.typeName "NAME"))
  | some (name, max) => do
    let count ← requireInteger name f.value
    checkRange name max count

/-- The field of a value, checked after it is put in. -/
def new (kind : Kind) (value : Value) : Attempt Field := do
  let f : Field := ⟨kind, value⟩
  f.validate
  return f

/-- The field of a value, checked before it is put in. -/
def tryFrom (kind : Kind) (value : Value) : Attempt Field := do
  let name ← kind.requireName
  let count ← requireInteger name value
  let max ← kind.requireMax
  checkRange name max count
  return unchecked kind (.int count)

/-- The field of a number given as decimal text. -/
def parse (kind : Kind) (text : Value) : Attempt Field := do
  let count ← readDecimal text
  tryFrom kind (.int count)

/-- The field of the value zero, checked. -/
def zero (kind : Kind) : Attempt Field :=
  new kind (.int 0)

/-! ## Comparing and showing fields -/

/-- Equality : the very same kind and equal values. -/
def same (f g : Field) : Bool :=
  f.kind.same g.kind && f.value.same g.value

/-- A field with its kind showing. -/
def literal (f : Field) : String :=
  f.toValue.literal

end Field

end CivilTime
