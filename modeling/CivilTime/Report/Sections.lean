import CivilTime.Batch.File
import CivilTime.Display
import CivilTime.Field.Run
import CivilTime.Report.Layout

/-!
# Sections of a report

A report on the library has three sections. `fields` lists the kinds of fields and how sample texts
are read as fields; `dateTimes` shows how sample texts are read as date-times, with what is stored
and what is written back, and how date-times are built of sample numbers; `batch` shows the
date-times of a batch, first together and then one by one.

The samples come as documents, and each section fails where its document lacks what it asks for.
What was printed before the failure stays printed. An error of dates and times is no failure of a
section : it is the outcome that the report shows (`outcome`).
-/

namespace CivilTime.Report

/-! ## Outcomes -/

/-- The text of a result, or the error of dates and times in its place. -/
def outcome (result : Traced String) : Traced String := do
  match ← result.observe with
  | .ok text => return text
  | .error (.dateTime e) => return e.label ++ ": " ++ e.message
  | .error cause => Traced.fail cause

/-- The text of a field read from a value. -/
def parsedField (kind : Kind) (text : Value) : Traced String := do
  let f ← Field.parse kind text
  f.toValue.literal?

/-- The text of a number read from a value. -/
def parsedNumber (text : Value) : Traced String := do
  let n ← readDecimal text
  Value.literal? (.int n)

/-- The text of a date-time read from a value. -/
def parsedDateTime (text : Value) : Traced String := do
  let dt ← DateTime.parse text
  dt.literal?

/-- The text of a date-time built of numbers. -/
def builtDateTime (numbers : List Value) : Traced String := do
  let dt ← DateTime.tryNewOf numbers
  dt.literal?

/-! ## Samples in documents -/

/-- The samples under two keys of a document, one after the other. -/
def samples (document : Value) (first second : String) : Attempt (List Value) := do
  let xs ← document.entry first
  let ys ← document.entry second
  (← xs.combine .add ys).items

/-- The unit a value names. -/
def unitNamed : Value → Attempt CalendarUnit
  | .str name =>
    match CalendarUnit.all.find? fun u => u.name = name with
    | some unit => .ok unit
    | none => .error (.key (.str name))
  | v =>
    match v.unhashable? with
    | some type => .error (.type (.unhashable type))
    | none => .error (.key v)

/-- The items of a value that is spread over the arguments of a call. -/
def spread (v : Value) : Attempt (List Value) :=
  match v.items? with
  | some items => .ok items
  | none => .error (.type (.notSpreadable v.typeName))

/-- Texts as a row of a table. -/
def textRow (cells : List String) : Value :=
  .list (cells.map .str)

/-! ## Fields -/

/-- The kinds of fields and their ranges. -/
def kindRows : Value :=
  .list (CalendarUnit.all.map fun u => textRow [u.name, "0-" ++ toString u.max])

/-- The row of a sample of a field. -/
def fieldRow (sample : Value) : Traced Value := do
  let unit ← unitNamed (← sample.entry "field")
  let id ← sample.entry "id"
  let field ← sample.entry "field"
  let shown ← (← sample.entry "text").literal?
  let text ← sample.entry "text"
  let result ← outcome (parsedField (.standard unit) text)
  return .list [id, field, .str shown, .str result]

/-- The section on fields. -/
def fields (document : Attempt Value) (limits : Limits := .usual) : Traced Unit := do
  banner (.str "BOUNDED FIELDS")
  table (textRow ["Field", "Range"]) kindRows tableIndent limits
  let document ← document
  heading (.str "Function: Field.parse(text)")
  let rows ← (← samples document "parse" "parse_errors").mapM fieldRow
  table (textRow ["Scenario", "Field", "Text", "Result"]) (.list rows) tableIndent limits

/-! ## Date-times -/

/-- The six numbers of a date-time as they are stored. -/
def storedNumbers (dt : DateTime) : Attempt String := do
  let year ← dt.year.display?
  let counts ← [dt.month, dt.day, dt.hour, dt.minute, dt.second].mapM fun f => do
    Value.display? (.int (← f.toInteger))
  return " ".intercalate (year :: counts)

/-- The row of a sample of the text of a date-time. -/
def textSampleRow (sample : Value) : Traced Value := do
  match ← (DateTime.parse (← sample.entry "text")).observe with
  | .ok dt =>
    let stored ← storedNumbers dt
    let id ← sample.entry "id"
    let shown ← (← sample.entry "text").literal?
    let wire ← dt.toWire
    return .list [id, .str shown, .str stored, .str wire]
  | .error (.dateTime e) =>
    let id ← sample.entry "id"
    let shown ← (← sample.entry "text").literal?
    return .list [id, .str shown, .str (e.label ++ ": " ++ e.message), .str ""]
  | .error cause => Traced.fail cause

/-- The row of a sample of the numbers of a date-time. -/
def numberSampleRow (sample : Value) : Traced Value := do
  let id ← sample.entry "id"
  let shown ← (← sample.entry "args").display?
  let numbers ← spread (← sample.entry "args")
  let result ← outcome (builtDateTime numbers)
  return .list [id, .str shown, .str result]

/-- The section on date-times. -/
def dateTimes (document : Attempt Value) (limits : Limits := .usual) : Traced Unit := do
  banner (.str "DATE-TIME COMPOSITE")
  let document ← document
  heading (.str "Function: DateTime.parse(text)")
  Traced.print "    Month and day are stored zero-indexed; the wire stays one-indexed."
  Traced.print ""
  let rows ← (← samples document "parse" "parse_errors").mapM textSampleRow
  table (textRow ["Scenario", "Text", "Stored y m d h mi s", "Wire"]) (.list rows) tableIndent limits
  heading (.str "Function: DateTime.try_new(...)")
  let rows ← (← samples document "try_new" "try_new_errors").mapM numberSampleRow
  table (textRow ["Scenario", "Args", "Result"]) (.list rows) tableIndent limits

/-! ## Batches -/

/-- The path of the file of the batch that is shown. -/
def batchFile : Path := .ofText "datetimes.json"

/-- Prints a date-time under its key. -/
def printEntry (entry : String × DateTime) : Traced Unit := do
  heading (.str entry.1)
  let _ ← (Subject.dateTime entry.2).showTable

/-- The section on a batch. -/
def batch (document : Attempt Value) : Traced Unit := do
  banner (.str "FIXTURE: datetimes.json")
  let entries ← Batch.ofDocument batchFile (← document)
  Traced.print ""
  let _ ← showOverview (entries.map fun e => (e.1, Subject.dateTime e.2))
  entries.forM printEntry

end CivilTime.Report
