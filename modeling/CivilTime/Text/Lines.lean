/-!
# Lines

A line ends with a newline, a carriage return, or both in this order; `normalizeNewlines` makes a
newline of each. `lineAndColumn` gives the place of an offset in such a text, both counted from one.
-/

namespace CivilTime.Text

/-- A text with a newline for every end of line. -/
def normalizeNewlines : List Char → List Char
  | [] => []
  | '\r' :: '\n' :: rest => '\n' :: normalizeNewlines rest
  | '\r' :: rest => '\n' :: normalizeNewlines rest
  | c :: rest => c :: normalizeNewlines rest

/-- The line and the column of an offset. -/
def lineAndColumn (text : List Char) (offset : Nat) : Nat × Nat :=
  let before := text.take offset
  (before.count '\n' + 1, (before.reverse.takeWhile (· ≠ '\n')).length + 1)

end CivilTime.Text
