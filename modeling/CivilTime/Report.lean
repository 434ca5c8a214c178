import CivilTime.Report.Samples
import CivilTime.Report.Sections

/-!
# The report

The whole report : its three sections on the samples of the library, and a blank line at the end.
-/

namespace CivilTime.Report

/-- Prints the report. -/
def full (limits : Limits := .usual) : Traced Unit := do
  fields (.ok fieldSamples) limits
  dateTimes (.ok dateTimeSamples) limits
  batch (.ok batchSample)
  Traced.print ""

end CivilTime.Report
