import CivilTime.Value
import CivilTime.Text.Quoted
import CivilTime.Number.Shortest

/-!
# The text of a value

`Value.literal` writes a value so that its type shows : text is quoted, a list stands in brackets, a
mapping in braces, and a field names its kind. `Value.display` writes a bare text without quotes
and all else as its literal.

An integer with too many digits has no text. `Value.oversized` tells whether a value holds one where
its literal would have to show it.
-/

namespace CivilTime.Value

mutual

/-- A value with its type showing. -/
def literal : Value → String
  | .null => "None"
  | .bool b => if b then "True" else "False"
  | .int n => String.ofList (Text.signedDigits n)
  | .float x => x.text
  | .str s => Text.quoted s
  | .list items => "[" ++ ", ".intercalate (literals items) ++ "]"
  | .dict entries => "\x7b" ++ ", ".intercalate (entryLiterals entries) ++ "\x7d"
  | .field kind value => kind.typeName ++ "(value=" ++ value.literal ++ ")"

/-- The literals of the items of a list. -/
def literals : List Value → List String
  | [] => []
  | v :: rest => v.literal :: literals rest

/-- The literals of the entries of a mapping. -/
def entryLiterals : List (String × Value) → List String
  | [] => []
  | (key, v) :: rest => (Text.quoted key ++ ": " ++ v.literal) :: entryLiterals rest

end

/-- A text as it is, any other value as its literal. -/
def display : Value → String
  | .str s => s
  | v => v.literal

mutual

/-- Whether the literal would show an integer with too many digits. -/
def oversized : Value → Bool
  | .int n => Text.tooLong n
  | .list items => anyOversized items
  | .dict entries => anyEntryOversized entries
  | .field _ value => value.oversized
  | _ => false

/-- Whether an item of a list is oversized. -/
def anyOversized : List Value → Bool
  | [] => false
  | v :: rest => v.oversized || anyOversized rest

/-- Whether an entry of a mapping is oversized. -/
def anyEntryOversized : List (String × Value) → Bool
  | [] => false
  | (_, v) :: rest => v.oversized || anyEntryOversized rest

end

end CivilTime.Value
