import CivilTime.Failure
import CivilTime.Limits

/-!
# Paths of files

A path is read from a text as a sequence of names behind an optional root (`Path.ofText`). Slashes
part the names, and a name that is empty or stands for the directory itself says nothing, so
`./a//b/` is the path `a/b`. A name for the directory above is kept.

A path can be refused whatever is found under it (`Path.refusal?`) : if it holds the character zero
or if it, or the name to be looked up, is longer than the file system allows.
-/

namespace CivilTime

/-- A sequence of names behind a root, which is empty for a relative path. -/
structure Path where
  root : String
  names : List String
  deriving DecidableEq, Repr

namespace Path

/-! ## Reading and writing paths -/

/-- The parts of a text between slashes. -/
def segments : List Char → List (List Char)
  | [] => [[]]
  | c :: rest =>
    if c = '/' then [] :: segments rest
    else match segments rest with
      | [] => [[c]]
      | first :: others => (c :: first) :: others

/-- The root a text begins with. Two slashes are a root of their own, any other number is as good as
one. -/
def rootOf (text : List Char) : String :=
  match (text.takeWhile (· = '/')).length with
  | 0 => ""
  | 2 => "//"
  | _ => "/"

/-- The name of the directory itself. -/
def here : String := "."

/-- The name of the directory above. -/
def above : String := ".."

/-- The path a text stands for. -/
def ofText (text : String) : Path :=
  ⟨rootOf text.toList,
    ((segments text.toList).map String.ofList).filter fun name => name ≠ "" ∧ name ≠ here⟩

/-- The text of a path. The empty path is the directory itself. -/
def text (p : Path) : String :=
  if p.root = "" ∧ p.names = [] then here else p.root ++ "/".intercalate p.names

/-- The last name of a path. -/
def fileName (p : Path) : String :=
  p.names.getLastD ""

/-! ## Refused paths -/

/-- The name that is looked up first; those above it are there without a look. -/
def firstName (p : Path) : String :=
  (p.names.dropWhile (· = above)).headD ""

/-- Whether a path leads nowhere but up from where it starts. -/
def isDirectory (p : Path) : Bool :=
  p.names.all (· = above)

/-- Why nothing is looked up under a path. -/
def refusal? (p : Path) (limits : Limits) : Option Failure :=
  if '\x00' ∈ p.text.toList then some (.value .nullInPath)
  else if limits.pathBytes < p.text.utf8ByteSize ∨
      limits.nameBytes < p.firstName.utf8ByteSize then
    some (.file (.tooLong p.text))
  else none

end Path

end CivilTime
