import CivilTime.Report

/-!
# Command line

Prints the report on standard output.
-/

/-- Writes what a computation prints, and its failure if it has one. -/
def main : IO UInt32 := do
  let report := CivilTime.Report.full
  IO.print report.output
  match report.outcome with
  | .ok _ => return 0
  | .error cause =>
    IO.eprintln cause.message
    return 1
