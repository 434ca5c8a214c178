import CivilTime.Failure

/-!
# Numbers read from decimal text

`readNumeral` reads a natural number from digits behind an optional plus sign. A text of any other
form is an error of dates and times; a numeral of more than `digitLimit` digits, leading zeros
counted and the sign not, is refused for its length.
-/

namespace CivilTime

/-- The number a numeral stands for. -/
def readNumeral (text : String) : Attempt Nat :=
  match Text.unsignedDigits? text.toList with
  | none => .error (.dateTime (.notDecimal text))
  | some digits =>
    if Text.digitLimit < digits.length then .error (.value (.tooLongToRead digits.length))
    else .ok (Text.decimalValue digits)

/-- The number a value stands for if it is the text of a numeral. -/
def readDecimal : Value → Attempt Nat
  | .str text => readNumeral text
  | v => .error (.type (.notText v.typeName))

end CivilTime
