import CivilTime.DateTime
import CivilTime.Traced
import CivilTime.Value.Arithmetic
import CivilTime.Value.Integer

/-!
# Date-times on the wire

On the wire a date-time is a text `YYYY-MM-DDThh:mm:ss` of `wireLength` characters. Month and day
count from one there and from zero in a date-time, so reading takes one away from each of them and
writing adds it.

`DateTime.ofWire` reads such a text : first the length, then the delimiters from left to right, then
the numbers between them from left to right, and last the shift of month and day, which refuses
a zero. A number may have a plus sign in the place of its first digit. `DateTime.toWire` writes a
date-time; it is longer than what can be read if a number is too large for its place.

`DateTime.parse` reads a text and leaves a record in the log if it has to refuse it.
-/

namespace CivilTime.DateTime

/-! ## Layout -/

/-- The number of characters on the wire. -/
def wireLength : Nat := 19

/-- The delimiters and their places. -/
def delimiters : List (Nat × Char) :=
  [(4, '-'), (7, '-'), (10, 'T'), (13, ':'), (16, ':')]

/-- The characters from one place up to another, the last one excluded. -/
def cut (start stop : Nat) (text : String) : String :=
  String.ofList ((text.toList.drop start).take (stop - start))

/-- The first delimiter that is not at its place, and the character found there. -/
def wrongDelimiter? (text : String) : Option (Nat × Char × Char) :=
  delimiters.findSome? fun d =>
    (text.toList[d.1]?).bind fun found =>
      if found = d.2 then none else some (d.1, d.2, found)

/-- Checks the length and the delimiters of a text. -/
def checkLayout (text : String) : Except DateTimeError Unit :=
  if text.length ≠ wireLength then .error (.wrongLength text wireLength)
  else match wrongDelimiter? text with
    | some (place, expected, found) => .error (.wrongDelimiter text expected place found)
    | none => .ok ()

/-! ## Reading -/

/-- The field of a unit, read from its place in a text. -/
def fieldAt (unit : CalendarUnit) (start : Nat) (text : String) : Attempt Field :=
  Field.parse (.standard unit) (.str (cut start (start + 2) text))

/-- The date-time a text stands for. -/
def ofWire (text : String) : Attempt DateTime := do
  (checkLayout text).mapError .dateTime
  let year ← readNumeral (cut 0 4 text)
  let month ← fieldAt .month 5 text
  let day ← fieldAt .day 8 text
  let hour ← fieldAt .hour 11 text
  let minute ← fieldAt .minute 14 text
  let second ← fieldAt .second 17 text
  let month ← month.combine .sub (.int 1)
  let day ← day.combine .sub (.int 1)
  return ⟨.int year, month, day, hour, minute, second⟩

/-- The date-time a text stands for, with a record of its refusal. -/
def parseText (text : String) : Traced DateTime :=
  match ofWire text with
  | .ok dt => pure dt
  | .error (.dateTime e) => do
    Traced.record (.rejected text e)
    Traced.fail (.dateTime e)
  | .error cause => Traced.fail cause

/-- The date-time a value stands for if it is a text of one. -/
def parse : Value → Traced DateTime
  | .str text => parseText text
  | v => Traced.fail (.type (.notText v.typeName))

/-! ## Writing -/

/-- A date-time on the wire. -/
def toWire (dt : DateTime) : Attempt String := do
  let year ← dt.year.format (.zeros 4)
  let month ← (Filling.zeros 2).write ((← dt.month.toInteger) + 1)
  let day ← (Filling.zeros 2).write ((← dt.day.toInteger) + 1)
  let hour ← (Filling.zeros 2).write (← dt.hour.toInteger)
  let minute ← (Filling.zeros 2).write (← dt.minute.toInteger)
  let second ← (Filling.zeros 2).write (← dt.second.toInteger)
  return year ++ "-" ++ month ++ "-" ++ day ++ "T" ++ hour ++ ":" ++ minute ++ ":" ++ second

end CivilTime.DateTime
