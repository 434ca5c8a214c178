import CivilTime.Text.Column
import CivilTime.Traced
import CivilTime.Value.Arithmetic
import CivilTime.Value.Integer
import CivilTime.Value.Sequence

/-!
# Layout of reports

A report has banners, headings and tables. The columns of a table are as wide as the longest cell or
header in them (`columnWidths`), two blanks stand between columns, and a rule of dashes stands under
the headers. A row may have fewer cells than there are columns, and the missing ones are blank, but
not more.

Headers, rows and cells are values of any type, and a cell that is no text shows only when it is
used. So `table` measures all cells before it prints anything, and writes a row just before it
prints it.
-/

namespace CivilTime.Report

/-- The width of banners. -/
def pageWidth : Nat := 90

/-- A title between two bars. -/
def banner (title : Value) : Traced Unit := do
  let bar := String.ofList (List.replicate pageWidth '=')
  Traced.print ""
  Traced.print bar
  Traced.print ("  " ++ (← title.display?))
  Traced.print bar

/-- A title above a line that is two characters longer. -/
def heading (title : Value) : Traced Unit := do
  Traced.print ""
  Traced.print ("  " ++ (← title.display?))
  Traced.print ("  " ++ Text.dashes ((← title.length) + 2))

/-! ## Columns -/

/-- The widths of columns, widened for the cells of a row. -/
def widen : List Nat → List Value → Attempt (List Nat)
  | widths, [] => .ok widths
  | [], _ :: _ => .error (.index (.outOfRange "list"))
  | width :: widths, cell :: cells => do
    let size ← cell.length
    let others ← widen widths cells
    return max width size :: others

/-- The widths of the columns of a table. -/
def columnWidths (headers rows : Value) : Attempt (List Nat) := do
  let widths ← (← headers.items).mapM Value.length
  (← rows.items).foldlM (fun widths row => do widen widths (← row.items)) widths

/-- How often a text is repeated by a value. -/
def repeatCount : Value → Attempt Int
  | .field kind value => do
    let count ← Field.toIndex ⟨kind, value⟩
    if Value.isIndex count then return count else .error (.range (.toIndex kind.typeName))
  | v =>
    match v.integer? with
    | some count =>
      if Value.isIndex count then .ok count else .error (.range (.toIndex v.typeName))
    | none => .error (.type (.repetition v.typeName))

/-- The blanks in front of each line. -/
def indentation (limits : Limits) (indent : Value) : Attempt String := do
  return String.ofList (← Value.repeated limits [' '] (← repeatCount indent))

/-- A cell as wide as its column. Only text can be written in a column. -/
def cellText (width : Nat) : Value → Attempt String
  | .str s => .ok (Text.padRight width s)
  | v => .error (.type (.formatting v.typeName))

/-- The cells of a line in their columns. -/
def cellTexts : List Nat → List Value → Attempt (List String)
  | width :: widths, cell :: cells => do
    let text ← cellText width cell
    let others ← cellTexts widths cells
    return text :: others
  | _, _ => .ok []

/-! ## Tables -/

/-- A line of a table. -/
def line (margin : String) (widths : List Nat) (cells : List Value) : Attempt String := do
  return margin ++ "  ".intercalate (← cellTexts widths cells)

/-- The rule under the headers. -/
def rule (margin : String) (widths : List Nat) : String :=
  margin ++ "  ".intercalate (widths.map Text.dashes)

/-- The cells of a row and blank ones up to the number of headers. -/
def paddedRow (headers row : Value) : Attempt (List Value) := do
  let missing := (← headers.length) - (← row.length)
  let padded ← row.combine .add (.list (List.replicate missing (.str "")))
  padded.items

/-- Prints a row of a table. -/
def printRow (margin : String) (widths : List Nat) (headers row : Value) : Traced Unit := do
  let cells ← paddedRow headers row
  Traced.print (← line margin widths cells)

/-- Prints a table. -/
def table (headers rows indent : Value) (limits : Limits := .usual) : Traced Unit := do
  let widths ← columnWidths headers rows
  let margin ← indentation limits indent
  Traced.print (← line margin widths (← headers.items))
  Traced.print (rule margin widths)
  (← rows.items).forM (printRow margin widths headers)

/-- The indentation of tables that do not say otherwise. -/
def tableIndent : Value := .int 4

end CivilTime.Report
