import CivilTime.Number.Binary64

/-!
# Shortest decimal text of a floating-point number

A finite number is written with the fewest significant digits that read back as the same number,
and of those the nearest to it. For one, two, … seventeen digits the two neighbours of the number
on the grid of decimals with so many digits are tried (`Binary64.shortest`); a neighbour is taken if
it lies in the interval of decimals that round to the number (`roundsBack`), whose ends belong to
it exactly if the mantissa is even. All comparisons are made on natural numbers.

`Binary64.text` lays the digits out : positionally as long as the decimal point falls between three
places before and sixteen places behind the first digit, with an exponent of at least two digits
otherwise.
-/

namespace CivilTime.Binary64

/-! ## Digits -/

/-- A positive number as a ratio of natural numbers. -/
def ratio (mantissa exponent : Nat) : Nat × Nat :=
  if unitPower ≤ exponent then (mantissa * Nat.pow 2 (exponent - unitPower), 1)
  else (mantissa, Nat.pow 2 (unitPower - exponent))

/-- The place of the decimal point in `num / den`, counted from the first significant digit. -/
def pointPlace (num den : Nat) : Int :=
  (Text.naturalDigits (num * Nat.pow 10 400 / den)).length - 400

/-- The ratio `num / den`, divided by `10 ^ place`. -/
def shifted (num den : Nat) (place : Int) : Nat × Nat :=
  if 0 ≤ place then (num, den * Nat.pow 10 place.toNat)
  else (num * Nat.pow 10 (-place).toNat, den)

/-- Whether `digits * 10 ^ place` rounds to the number with this mantissa and exponent. The gap
below a power of two is half the gap above it. -/
def roundsBack (mantissa exponent digits : Nat) (place : Int) : Bool :=
  let (num, den) := ratio mantissa exponent
  let (num, den) := shifted num den place
  let gap := num / mantissa
  let halfGapBelow := if mantissa = Nat.pow 2 52 ∧ 0 < exponent then gap else 2 * gap
  let least := 4 * num - halfGapBelow
  let greatest := 4 * num + 2 * gap
  let candidate := 4 * digits * den
  if mantissa % 2 = 0 then least ≤ candidate && candidate ≤ greatest
  else least < candidate && candidate < greatest

/-- The nearest decimal with `count` digits that reads back as the number, if there is one. -/
def withDigits? (mantissa exponent count : Nat) : Option (Nat × Int) :=
  let (num, den) := ratio mantissa exponent
  let place := pointPlace num den - count
  let (num', den') := shifted num den place
  let lower := num' / den'
  match roundsBack mantissa exponent lower place, roundsBack mantissa exponent (lower + 1) place with
  | true, true => some (roundRatio num' den', place)
  | true, false => some (lower, place)
  | false, true => some (lower + 1, place)
  | false, false => none

/-- The shortest decimal `digits * 10 ^ place` that reads back as a positive number. Seventeen
digits always do. -/
def shortest (mantissa exponent : Nat) : Nat × Int :=
  ((List.range 17).findSome? fun i => withDigits? mantissa exponent (i + 1)).getD (0, 0)

/-! ## Layout -/

/-- Zeros at the end of a run of digits, taken away. -/
def dropFinalZeros (digits : List Char) : List Char :=
  (digits.reverse.dropWhile (· == '0')).reverse

/-- Digits with the decimal point at place `point`, counted from the first digit. -/
def positional (digits : List Char) (point : Int) : List Char :=
  if point ≤ 0 then
    '0' :: '.' :: (List.replicate (-point).toNat '0' ++ digits)
  else
    let whole := digits.take point.toNat
    let fraction := digits.drop point.toNat
    whole ++ List.replicate (point.toNat - digits.length) '0' ++ '.' ::
      (if fraction = [] then ['0'] else fraction)

/-- Digits with one of them before the decimal point, and an exponent of at least two digits. -/
def scientific (digits : List Char) (exponent : Int) : List Char :=
  let power := Text.naturalDigits exponent.natAbs
  let power := List.replicate (2 - power.length) '0' ++ power
  let fraction := digits.drop 1
  digits.take 1 ++ (if fraction = [] then [] else '.' :: fraction) ++
    'e' :: (if exponent < 0 then '-' else '+') :: power

/-- The text of a floating-point number. -/
def text : Binary64 → String
  | .nan => "nan"
  | .infinity negative => if negative then "-inf" else "inf"
  | .finite negative mantissa exponent =>
    let sign := if negative then "-" else ""
    if mantissa = 0 then sign ++ "0.0"
    else
      let (value, place) := shortest mantissa exponent
      let digits := Text.naturalDigits value
      let point : Int := digits.length + place
      let digits := dropFinalZeros digits
      sign ++ String.ofList
        (if -4 < point ∧ point ≤ 16 then positional digits point else scientific digits (point - 1))

end CivilTime.Binary64
