import CivilTime.Text.Decimal

/-!
# Binary floating-point numbers of 64 bits

A finite number is kept as its two integers : `mantissa` times two to the power `exponent`, counted
in units of `2 ^ -1074`, the smallest positive number of the format. Every finite number is then a
whole number of units (`Binary64.units`), every integer is too, and the two are compared exactly
(`Number.position`); no rounding enters a comparison.

Only the construction from a ratio rounds (`Binary64.ofUnits`), to the nearest number and at a tie
to the even mantissa. Addition rounds the exact sum, and a decimal numeral is rounded once
(`Binary64.ofDecimal`).
-/

namespace CivilTime

/-- A floating-point number. -/
inductive Binary64 where
  | nan
  | infinity (negative : Bool)
  | finite (negative : Bool) (mantissa exponent : Nat)
  deriving DecidableEq, Repr

namespace Binary64

/-- The power of two that makes the units one. -/
def unitPower : Nat := 1074

/-- The number of units in one. -/
def unitsPerOne : Nat := Nat.pow 2 unitPower

theorem unitsPerOne_pos : 0 < unitsPerOne := by
  have powers : ∀ n, 0 < Nat.pow 2 n := Nat.two_pow_pos
  unfold unitsPerOne
  exact powers unitPower

/-- The largest exponent of a finite number. -/
def exponentLimit : Nat := 2045

/-! ## Rounding -/

/-- The integer nearest to `num / den`, at a tie the even one. -/
def roundRatio (num den : Nat) : Nat :=
  let q := num / den
  let r := num % den
  if 2 * r < den then q else if den < 2 * r then q + 1 else q + q % 2

/-- The number nearest to `num / den` units; infinite beyond the range of the format. -/
def ofUnits (negative : Bool) (num den : Nat) : Binary64 :=
  let exponent := Nat.log2 (num / den) - 52
  let mantissa := roundRatio num (den * Nat.pow 2 exponent)
  let (mantissa, exponent) :=
    if mantissa = Nat.pow 2 53 then (Nat.pow 2 52, exponent + 1) else (mantissa, exponent)
  if exponentLimit < exponent then .infinity negative else .finite negative mantissa exponent

/-- The number nearest to an integer; none if it lies beyond the range of the format. -/
def ofInt? (n : Int) : Option Binary64 :=
  match ofUnits (n < 0) (n.natAbs * unitsPerOne) 1 with
  | .infinity _ => none
  | x => some x

/-- The number nearest to `digits * 10 ^ exponent`. -/
def ofDecimal (negative : Bool) (digits : Nat) (exponent : Int) : Binary64 :=
  let size := (Text.naturalDigits digits).length + exponent
  if digits = 0 ∨ size < -330 then .finite negative 0 0
  else if 310 < size then .infinity negative
  else if 0 ≤ exponent then
    ofUnits negative (digits * Nat.pow 10 exponent.toNat * unitsPerOne) 1
  else
    ofUnits negative (digits * unitsPerOne) (Nat.pow 10 (-exponent).toNat)

/-! ## Arithmetic -/

/-- The value of a finite number in units, zero for the others. -/
def units : Binary64 → Int
  | .finite negative mantissa exponent =>
    let size : Int := (mantissa * Nat.pow 2 exponent : Nat)
    if negative then -size else size
  | _ => 0

/-- The number with the other sign. -/
def neg : Binary64 → Binary64
  | .nan => .nan
  | .infinity negative => .infinity (!negative)
  | .finite negative mantissa exponent => .finite (!negative) mantissa exponent

/-- The sum, rounded once. A sum of zero is negative only if both summands are. -/
def add : Binary64 → Binary64 → Binary64
  | .nan, _ => .nan
  | _, .nan => .nan
  | .infinity a, .infinity b => if a = b then .infinity a else .nan
  | .infinity a, .finite .. => .infinity a
  | .finite .., .infinity b => .infinity b
  | x@(.finite a _ _), y@(.finite b _ _) =>
    let sum := x.units + y.units
    if sum = 0 then .finite (a && b) 0 0 else ofUnits (sum < 0) sum.natAbs 1

/-- The difference, rounded once. -/
def sub (x y : Binary64) : Binary64 :=
  x.add y.neg

/-- The integer part of a finite number. -/
def truncate (x : Binary64) : Int :=
  x.units.tdiv unitsPerOne

end Binary64

/-! ## Integers and floating-point numbers together -/

/-- A number of either sort. -/
inductive Number where
  | int (n : Int)
  | float (x : Binary64)

/-- A place on the extended line of numbers, counted in units; not-a-number has none. -/
inductive Position where
  | below
  | at (units : Int)
  | above
  deriving DecidableEq

/-- Strict order of places. -/
def Position.less : Position → Position → Bool
  | .at m, .at n => m < n
  | .below, .below => false
  | .below, _ => true
  | .at _, .above => true
  | _, _ => false

namespace Number

/-- The floating-point number nearest to a number; none if it lies beyond the range of the
format. -/
def float? : Number → Option Binary64
  | .int n => Binary64.ofInt? n
  | .float x => some x

/-- Where a number stands. -/
def position : Number → Option Position
  | .int n => some (.at (n * Binary64.unitsPerOne))
  | .float .nan => none
  | .float (.infinity negative) => some (if negative then .below else .above)
  | .float x => some (.at x.units)

/-- Equality of numbers of either sort : they stand at the same place. Not-a-number differs from
all, itself included. -/
def same : Number → Number → Bool
  | .int m, .int n => m = n
  | a, b =>
    match a.position, b.position with
    | some p, some q => p = q
    | _, _ => false

/-- Strict order of numbers of either sort; not-a-number is not ordered. -/
def less : Number → Number → Bool
  | .int m, .int n => m < n
  | a, b =>
    match a.position, b.position with
    | some p, some q => p.less q
    | _, _ => false

/-- Integers are equal exactly if they stand at the same place, as all numbers are. -/
theorem same_eq_true_iff (a b : Number) :
    a.same b = true ↔ ∃ p, a.position = some p ∧ b.position = some p := by
  have general (p? q? : Option Position) :
      (match p?, q? with
        | some p, some q => decide (p = q)
        | _, _ => false) = true ↔ ∃ p, p? = some p ∧ q? = some p := by
    cases p? <;> cases q? <;> simp [eq_comm]
  match a, b with
  | .int m, .int n =>
    have scale : (Binary64.unitsPerOne : Int) ≠ 0 :=
      Int.ne_of_gt (Int.natCast_pos.mpr Binary64.unitsPerOne_pos)
    constructor
    · intro h
      exact ⟨_, rfl, by rw [of_decide_eq_true h]; rfl⟩
    · rintro ⟨p, hm, hn⟩
      have places := Option.some.inj (hm.trans hn.symm)
      exact decide_eq_true (Int.eq_of_mul_eq_mul_right scale (Position.at.inj places))
  | .int _, .float _ => exact general _ _
  | .float _, .int _ => exact general _ _
  | .float _, .float _ => exact general _ _

end Number

end CivilTime
