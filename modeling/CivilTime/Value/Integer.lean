import CivilTime.Field
import CivilTime.Text.Numeral

/-!
# Whole numbers out of values, and their text

`Value.toInteger` converts a value to a whole number : a floating-point number loses its fraction, a
text is read as an integer numeral, and a field gives the whole number it wraps. `Value.format`
writes a value that is a whole number already, filled up to a width with zeros or with blanks.
-/

namespace CivilTime

/-! ## Conversion -/

/-- The integer a text stands for. Digits and blanks of all scripts are understood. Too many digits
are refused even where something else follows them. -/
def readInteger (text : String) : Attempt Int :=
  match Text.leadingInteger? text.toList with
  | none => .error (.value (.noInteger text))
  | some n =>
    if Text.digitLimit < n.digits.length then .error (.value (.tooLongToRead n.digits.length))
    else if n.isWhole then
      let size : Int := Text.decimalValue n.digits
      .ok (if n.negative then -size else size)
    else .error (.value (.noInteger text))

namespace Field

/-- The whole number a field wraps, as asked for by a conversion. -/
def integer (conversion : Conversion) (f : Field) : Attempt Int :=
  match f.value.integer? with
  | some n => .ok n
  | none => .error (.type (.conversion conversion f.value.typeName))

/-- A field as a whole number. -/
def toInteger (f : Field) : Attempt Int :=
  f.integer .integer

/-- A field as an index. -/
def toIndex (f : Field) : Attempt Int :=
  f.integer .index

end Field

namespace Value

/-- A value as a whole number. -/
def toInteger : Value → Attempt Int
  | .bool b => .ok (if b then 1 else 0)
  | .int n => .ok n
  | .float .nan => .error (.value .notANumber)
  | .float (.infinity _) => .error (.range .infinity)
  | .float x => .ok x.truncate
  | .str s => readInteger s
  | .field kind value => Field.toInteger ⟨kind, value⟩
  | v => .error (.type (.integerArgument v.typeName))

@[simp] theorem toInteger_toValue (f : Field) : f.toValue.toInteger = f.toInteger := rfl

end Value

/-! ## Text of a given width -/

/-- What a number is filled up with, and to which width. -/
inductive Filling where
  | zeros (width : Nat)
  | blanks (width : Nat)

/-- The text of an integer. A number with too many digits has none. -/
def Filling.write : Filling → Int → Attempt String
  | filling, n =>
    if Text.tooLong n then .error (.value .tooLongToWrite)
    else match filling with
      | .zeros width => .ok (String.ofList (Text.zeroPadded width n))
      | .blanks width => .ok (String.ofList (Text.blankPadded width n))

/-- The text of a value that is a whole number. Text and floating-point numbers know no such
writing, and the other types know none at all. -/
def Value.format (filling : Filling) : Value → Attempt String
  | .bool b => filling.write (if b then 1 else 0)
  | .int n => filling.write n
  | .float _ => .error (.value (.formatCode "float"))
  | .str _ => .error (.value (.formatCode "str"))
  | v => .error (.type (.formatting v.typeName))

end CivilTime
