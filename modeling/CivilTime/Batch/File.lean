import CivilTime.Batch
import CivilTime.Batch.Path
import CivilTime.Json

/-!
# Batches in files

A file of date-times is a JSON document in UTF-8. It holds a mapping from keys to texts, either bare
or as the value of the one key `datetimes` (`batchOf`).

`Batch.ofDocument` takes all of it or nothing : it first lists the complaints about the whole batch
and fails with all of them if there are any; then it reads the batch and records in the log how many
date-times it has got.
-/

namespace CivilTime

/-- What is found under the path of a file. -/
inductive FileContent where
  | missing
  | directory
  | bytes (bytes : List UInt8)

/-- A path and what is found there. -/
structure File where
  path : Path
  content : FileContent

/-- The bytes of a file. -/
def File.read (f : File) (limits : Limits) : Attempt (List UInt8) :=
  match f.path.refusal? limits, f.content with
  | some refusal, _ => .error refusal
  | none, .missing =>
    if f.path.isDirectory then .error (.file (.directory f.path.text))
    else .error (.file (.missing f.path.text))
  | none, .directory => .error (.file (.directory f.path.text))
  | none, .bytes bytes => .ok bytes

/-- The value of the JSON document in a file. -/
def File.document (f : File) (limits : Limits := .usual) : Attempt Value := do
  Json.decodeBytes limits.nesting (← f.read limits)

namespace Batch

/-- The key of a wrapped batch. -/
def wrapperKey : String := "datetimes"

/-- The batch of a document, without its wrapper if it has one. -/
def batchOf : Value → Value
  | .dict entries => (lookup wrapperKey entries).getD (.dict entries)
  | v => v

/-- The complaint about a document that holds no mapping. -/
def noMapping : String := "expected a mapping of id to date-time string"

/-- The date-times of a document that was found under a path. Complaints name the file, the log
names the path. -/
def ofDocument (path : Path) (document : Value) : Traced (List (String × DateTime)) :=
  match batchOf document with
  | .dict entries => do
    let found ← complaints entries
    if found ≠ [] then
      Traced.fail (.value (.validation path.fileName found))
    else
      let dateTimes ← readAll entries
      Traced.record (.loaded dateTimes.length path.text)
      return dateTimes
  | _ => Traced.fail (.value (.validation path.fileName [noMapping]))

/-- The date-times of a file. -/
def load (f : File) (limits : Limits) : Traced (List (String × DateTime)) := do
  ofDocument f.path (← f.document limits)

/-- The date-times of the file with the given content under a path. Only a text is a path. -/
def loadPath (path : Value) (content : FileContent) (limits : Limits := .usual) :
    Traced (List (String × DateTime)) :=
  match path with
  | .str text => load ⟨.ofText text, content⟩ limits
  | v => Traced.fail (.type (.path v.typeName))

end Batch

end CivilTime
