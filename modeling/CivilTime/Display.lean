import CivilTime.Record
import CivilTime.Text.Column
import CivilTime.Traced
import CivilTime.Value.Integer

/-!
# Tables for the eye

Two tables show date-times, and both of them only ask for the six parts, so a record can be shown
as well (`Subject`). `Subject.table` has a line for each part of a single one : what is stored, the
bound of its kind, and what is written on the wire, where month and day count from one.
`overview` has a line for each entry of a mapping : its key and the numbers on the wire.

`Subject.showTable` and `showOverview` give such a text and print it. If a part is missing or cannot
be written, nothing is printed at all.
-/

namespace CivilTime

/-! ## What can be shown -/

/-- What has, or should have, the parts of a date-time. -/
inductive Subject where
  | dateTime (dt : DateTime)
  | record (r : Record)
  /-- A value, which has no parts. -/
  | plain (v : Value)

namespace Subject

/-- The value of a part. -/
def part (s : Subject) (p : Part) : Attempt Value :=
  match s with
  | .dateTime dt => .ok (dt.part p)
  | .record r => r.member p.name
  | .plain v => .error (.member (.ofObject v.typeName p.name))

/-- Whether all six parts are there, of whatever type. -/
def isComplete : Subject → Bool
  | .dateTime _ => true
  | .record r => Part.all.all fun p => r.has p.name
  | .plain _ => false

end Subject

namespace Part

/-- What is added to a part on the wire. -/
def wireOffset : Part → Int
  | .month => 1
  | .day => 1
  | _ => 0

end Part

/-- The kind of a value that is a field. Only a declared kind has a name to show. -/
def Value.requireDeclared : Value → Attempt (Field × String)
  | .field kind value => do return (⟨kind, value⟩, ← kind.requireName)
  | v => .error (.member (.ofType v.typeName "NAME"))

/-! ## One date-time -/

namespace Subject

/-- Four cells in their columns. -/
def tableLine (name stored max wire : String) : String :=
  Text.padRight 8 name ++ "  " ++ Text.padLeft 6 stored ++ "  " ++ Text.padLeft 4 max ++ "  " ++
    Text.padLeft 4 wire

/-- The titles of the columns. -/
def titleLine : String :=
  tableLine "Field" "Stored" "Max" "Wire"

/-- The rule under the titles. -/
def ruleLine : String :=
  tableLine (Text.dashes 8) (Text.dashes 6) (Text.dashes 4) (Text.dashes 4)

/-- The line of the year, which has no bound. -/
def yearLine (year : Value) : Attempt String := do
  let stored ← year.format (.blanks 6)
  let wire ← year.format (.blanks 4)
  return tableLine "Year" stored "-" wire

/-- The line of a field, with what is added to it on the wire. -/
def fieldLine (v : Value) (offset : Int) : Attempt String := do
  let (f, name) ← v.requireDeclared
  let count ← f.toInteger
  let stored ← (Filling.blanks 6).write count
  let max ← (← f.kind.requireMax).format (.blanks 4)
  let wire ← (Filling.blanks 4).write (count + offset)
  return tableLine name stored max wire

/-- The line of a part other than the year. -/
def partLine (s : Subject) (p : Part) : Attempt String := do
  fieldLine (← s.part p) p.wireOffset

/-- The table of one date-time. -/
def table (s : Subject) : Attempt String := do
  let year ← yearLine (← s.part .year)
  let fields ← [Part.month, .day, .hour, .minute, .second].mapM s.partLine
  return "\n".intercalate (titleLine :: ruleLine :: year :: fields)

/-- Prints the table of one date-time. -/
def showTable (s : Subject) : Traced String := do
  let text ← s.table
  Traced.print text
  return text

/-! ## Many date-times -/

/-- A part as it is written on the wire. -/
def wirePart (s : Subject) (p : Part) : Attempt String := do
  (Filling.zeros 2).write ((← (← s.part p).toInteger) + p.wireOffset)

/-- The numbers of a date-time as on the wire, with delimiters for the eye. -/
def summary (s : Subject) : Attempt String := do
  let year ← (← s.part .year).format (.zeros 4)
  let month ← s.wirePart .month
  let day ← s.wirePart .day
  let hour ← s.wirePart .hour
  let minute ← s.wirePart .minute
  let second ← s.wirePart .second
  return year ++ "/" ++ month ++ "/" ++ day ++ " " ++ hour ++ ":" ++ minute ++ ":" ++ second

end Subject

/-- The width of the longest key. -/
def keyWidth {α : Type} (entries : List (String × α)) : Nat :=
  entries.foldl (fun width e => max width e.1.length) 0

/-- The lines of a mapping from keys to date-times. -/
def overviewLines (entries : List (String × Subject)) : Attempt (List String) :=
  let width := keyWidth entries
  entries.mapM fun e => do
    return Text.padRight width e.1 ++ "  " ++ (← e.2.summary)

/-- The table of a mapping from keys to date-times. -/
def overview (entries : List (String × Subject)) : Attempt String := do
  return "\n".intercalate (← overviewLines entries)

/-- Prints the table of a mapping from keys to date-times. -/
def showOverview (entries : List (String × Subject)) : Traced String := do
  let text ← overview entries
  Traced.print text
  return text

end CivilTime
