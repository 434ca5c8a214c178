import CivilTime.Text.Column
import CivilTime.Text.Numeral
import CivilTime.Text.Quoted
import CivilTime.Number.Shortest
import CivilTime.Value.Literal
import CivilTime.Value.Equality
import CivilTime.Failure
import CivilTime.Value.Arithmetic
import CivilTime.Value.Integer
import CivilTime.Value.Sequence
import CivilTime.Field.Run
import CivilTime.Json
import CivilTime.Traced
import CivilTime.DateTime.Wire
import CivilTime.DateTime.Clock
import CivilTime.Display
import CivilTime.Batch.File
import CivilTime.Session
import CivilTime.Main
import CivilTime.Proofs.Digits
import CivilTime.Proofs.Fields
import CivilTime.Proofs.Layout
import CivilTime.Proofs.Reading
import CivilTime.Proofs.RoundTrip
import CivilTime.Proofs.Derivations
import CivilTime.Proofs.Sessions
import CivilTime.Proofs.Refusals
import CivilTime.Proofs.Batches
import CivilTime.Proofs.Parts
import CivilTime.Proofs.FieldTexts
import CivilTime.Proofs.DeclaredKinds
import CivilTime.Proofs.FieldRuns
import CivilTime.Proofs.SixValues
import CivilTime.Proofs.PrintableMessages
import CivilTime.Proofs.Interleavings
import CivilTime.Proofs.Tables
import CivilTime.Proofs.Timestamps
import CivilTime.Proofs.BatchReport
import CivilTime.Proofs.WireOrder
import CivilTime.Proofs.Validation
import CivilTime.Proofs.TextTables
import CivilTime.Proofs.SampleReport
import CivilTime.Proofs.Overviews
import CivilTime.Proofs.TableReading
import CivilTime.Proofs.AlignedTables
import CivilTime.Proofs.EqualValues
import CivilTime.Proofs.Traversals
import CivilTime.Proofs.DistinctPrimitives
import CivilTime.Proofs.Numerals
import CivilTime.Proofs.FrozenAttributes
import CivilTime.Proofs.UnnoticedChanges
