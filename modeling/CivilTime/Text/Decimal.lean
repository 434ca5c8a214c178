/-!
# Decimal text

A numeral is written with ASCII digits, most significant first. `decimalValue` reads a run of
digits by position and `naturalDigits` writes a natural number without leading zeros; the two are
inverse to each other (`decimalValue_naturalDigits`), and one more digit at the end multiplies by
ten and adds (`decimalValue_concat`).

`unsignedDigits?` cuts the digits out of a numeral that may carry one plus sign. Numbers and text
are converted into each other up to `digitLimit` digits only, leading zeros counted.

`zeroPadded` fills a signed number up to a width with zeros that stand behind its sign.
-/

namespace CivilTime.Text

/-- Numbers of more digits than this are neither read from decimal text nor written as such. -/
def digitLimit : Nat := 4300

/-! ## Digits and their value -/

/-- The positional value of a run of digits. -/
def decimalValue (digits : List Char) : Nat :=
  Nat.ofDigitChars 10 digits 0

/-- The digits of a natural number, without leading zeros. -/
def naturalDigits (n : Nat) : List Char :=
  Nat.toDigits 10 n

@[simp] theorem decimalValue_nil : decimalValue [] = 0 := rfl

theorem decimalValue_concat (digits : List Char) (d : Char) :
    decimalValue (digits ++ [d]) = 10 * decimalValue digits + (d.toNat - '0'.toNat) := by
  simp [decimalValue, Nat.ofDigitChars_append, Nat.ofDigitChars_cons]

@[simp] theorem decimalValue_naturalDigits (n : Nat) : decimalValue (naturalDigits n) = n :=
  Nat.ofDigitChars_toDigits (by decide) (by decide)

theorem isDigit_of_mem_naturalDigits {n : Nat} {c : Char} (h : c ∈ naturalDigits n) :
    c.isDigit = true :=
  Nat.isDigit_of_mem_toDigits (by decide) (by decide) h

/-- The digits of an integer, after a minus sign if it is negative. -/
def signedDigits (n : Int) : List Char :=
  if n < 0 then '-' :: naturalDigits n.natAbs else naturalDigits n.natAbs

/-- Whether an integer has more digits than can be converted. -/
def tooLong (n : Int) : Bool :=
  decide (digitLimit < (naturalDigits n.natAbs).length)

/-! ## Numerals with a plus sign -/

/-- A text without its leading plus sign, if it has one. -/
def dropPlus : List Char → List Char
  | '+' :: rest => rest
  | text => text

/-- The digits of a numeral : at least one, nothing else beside them but one leading plus sign. -/
def unsignedDigits? (text : List Char) : Option (List Char) :=
  let digits := dropPlus text
  if digits ≠ [] ∧ digits.all Char.isDigit then some digits else none

/-! ## Filling up to a width -/

/-- A number filled with zeros up to `width` characters. The sign counts and stays in front. -/
def zeroPadded (width : Nat) (n : Int) : List Char :=
  let digits := naturalDigits n.natAbs
  if n < 0 then
    '-' :: (List.replicate (width - (digits.length + 1)) '0' ++ digits)
  else
    List.replicate (width - digits.length) '0' ++ digits

/-- A number filled with blanks on the left up to `width` characters. -/
def blankPadded (width : Nat) (n : Int) : List Char :=
  let digits := signedDigits n
  List.replicate (width - digits.length) ' ' ++ digits

end CivilTime.Text
