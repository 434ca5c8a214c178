/-!
# Blanks and decimal digits of all scripts

An integer may be written with the decimal digits of any script and with blanks of any script
around it. Both are replaced by their ASCII counterparts before the numeral is read
(`toAscii`); any other character beyond ASCII becomes a question mark, which no numeral holds.

The tables are those of version 14.0 of the Unicode character database. The ten digits of a script
have consecutive code points, so its zero is enough.
-/

namespace CivilTime.Text

/-- The code points of the zeros beyond ASCII. -/
def scriptZeros : List Nat := [
    0x660, 0x6F0, 0x7C0, 0x966, 0x9E6, 0xA66, 0xAE6, 0xB66, 0xBE6, 0xC66, 0xCE6, 0xD66, 0xDE6,
    0xE50, 0xED0, 0xF20, 0x1040, 0x1090, 0x17E0, 0x1810, 0x1946, 0x19D0, 0x1A80, 0x1A90, 0x1B50,
    0x1BB0, 0x1C40, 0x1C50, 0xA620, 0xA8D0, 0xA900, 0xA9D0, 0xA9F0, 0xAA50, 0xABF0, 0xFF10,
    0x104A0, 0x10D30, 0x11066, 0x110F0, 0x11136, 0x111D0, 0x112F0, 0x11450, 0x114D0, 0x11650,
    0x116C0, 0x11730, 0x118E0, 0x11950, 0x11C50, 0x11D50, 0x11DA0, 0x16A60, 0x16AC0, 0x16B50,
    0x1D7CE, 0x1D7D8, 0x1D7E2, 0x1D7EC, 0x1D7F6, 0x1E140, 0x1E2F0, 0x1E950, 0x1FBF0
  ]

/-- The code points of the blanks beyond ASCII, as ranges with both ends included. -/
def scriptBlanks : List (Nat × Nat) := [
    (0x85, 0x85), (0xA0, 0xA0), (0x1680, 0x1680), (0x2000, 0x200A), (0x2028, 0x2029),
    (0x202F, 0x202F), (0x205F, 0x205F), (0x3000, 0x3000)
  ]

/-- The ASCII counterpart of a blank or digit of any script. -/
def toAscii (c : Char) : Char :=
  let n := c.toNat
  if n < 0x7F then c
  else if scriptBlanks.any fun (first, last) => first ≤ n && n ≤ last then ' '
  else match scriptZeros.find? fun start => start ≤ n && n < start + 10 with
    | some start => Nat.digitChar (n - start)
    | none => '?'

/-- The blanks of ASCII : tab, the line breaks, and the space. -/
def isAsciiBlank (c : Char) : Bool :=
  c == ' ' || (9 ≤ c.toNat && c.toNat ≤ 13)

/-- The digits of a run in which one underscore may stand between two digits; none if the run holds
anything else, is empty, or begins or ends with an underscore. -/
def ungroupedDigits? : List Char → Option (List Char)
  | [] => none
  | [d] => if d.isDigit then some [d] else none
  | d :: '_' :: rest => if d.isDigit then (ungroupedDigits? rest).map (d :: ·) else none
  | d :: rest => if d.isDigit then (ungroupedDigits? rest).map (d :: ·) else none

/-- What an integer numeral may hold besides blanks and a sign. -/
def isNumeralPart (c : Char) : Bool :=
  c.isDigit || c == '_'

/-- The sign in front of a text, `true` for minus, and the text after it. -/
def splitSign : List Char → Bool × List Char
  | '-' :: rest => (true, rest)
  | '+' :: rest => (false, rest)
  | rest => (false, rest)

/-- The integer numeral a text begins with, and the text after it. -/
structure LeadingInteger where
  negative : Bool
  digits : List Char
  rest : List Char

/-- The integer numeral a text begins with : blanks before it, one sign, and single underscores
between its digits are allowed. The run of digits and underscores is read as a whole or not at all.
-/
def leadingInteger? (text : List Char) : Option LeadingInteger :=
  let (negative, body) := splitSign ((text.map toAscii).dropWhile isAsciiBlank)
  (ungroupedDigits? (body.takeWhile isNumeralPart)).map fun digits =>
    ⟨negative, digits, body.dropWhile isNumeralPart⟩

/-- Whether nothing but blanks follows a numeral. -/
def LeadingInteger.isWhole (n : LeadingInteger) : Bool :=
  n.rest.all isAsciiBlank

end CivilTime.Text
