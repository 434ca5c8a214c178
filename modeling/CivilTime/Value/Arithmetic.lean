import CivilTime.Field

/-!
# Sums, differences and repetitions

Numbers are added and subtracted, exactly as long as both are whole and in floating point otherwise.
A text is joined to a text and a list to a list. A field takes an integer : the sum or difference of
its value goes through the check of its kind again, so it is a field of the same kind or nothing
(`Field.combine`). All other pairs of types have no sum and no difference.
-/

namespace CivilTime

/-- Addition or subtraction. -/
inductive Operation where
  | add
  | sub
  deriving DecidableEq, Repr

namespace Operation

/-- The sign of an operation. -/
def symbol : Operation → String
  | .add => "+"
  | .sub => "-"

/-- An operation on integers. -/
def onIntegers : Operation → Int → Int → Int
  | .add, m, n => m + n
  | .sub, m, n => m - n

/-- An operation in floating point. -/
def onFloats : Operation → Binary64 → Binary64 → Binary64
  | .add, x, y => x.add y
  | .sub, x, y => x.sub y

/-- An operation in floating point on numbers of either sort. An integer too large for floating
point has no sum with a floating-point number. -/
def onConverted (op : Operation) (x y : Number) : Attempt Value :=
  match x.float?, y.float? with
  | some a, some b => .ok (.float (op.onFloats a b))
  | _, _ => .error (.range .toFloat)

/-- An operation on numbers of either sort, exact on integers. -/
def onNumbers (op : Operation) : Number → Number → Attempt Value
  | .int m, .int n => .ok (.int (op.onIntegers m n))
  | x, y => op.onConverted x y

end Operation

namespace Value

/-- The failure of an operation between two types. -/
def noOperation (symbol : String) (a b : Value) : Failure :=
  .type (.operands symbol a.typeName b.typeName)

/-- The sum or difference of two values. -/
def combine (op : Operation) : Value → Value → Attempt Value
  | .field kind value, b =>
    match b with
    | .int n => do
      let result ← combine op value (.int n)
      let f ← Field.tryFrom kind result
      return f.toValue
    | _ => .error (noOperation op.symbol (.field kind value) b)
  | .str s, b =>
    match op, b with
    | .add, .str t => .ok (.str (s ++ t))
    | .add, _ => .error (.type (.concatenation "str" b.typeName))
    | .sub, _ => .error (noOperation op.symbol (.str s) b)
  | .list xs, b =>
    match op, b with
    | .add, .list ys => .ok (.list (xs ++ ys))
    | .add, _ => .error (.type (.concatenation "list" b.typeName))
    | .sub, _ => .error (noOperation op.symbol (.list xs) b)
  | a, b =>
    match a.number?, b.number? with
    | some x, some y => op.onNumbers x y
    | _, _ => .error (noOperation op.symbol a b)

end Value

/-- The field of the sum or difference of a field's value and an integer. -/
def Field.combine (op : Operation) (f : Field) (amount : Value) : Attempt Field :=
  match amount with
  | .int n => do
    let result ← f.value.combine op (.int n)
    Field.tryFrom f.kind result
  | _ => .error (Value.noOperation op.symbol f.toValue amount)

/-- Adding to a field as a value is adding to the field. -/
theorem Value.combine_toValue (op : Operation) (f : Field) (amount : Value) :
    f.toValue.combine op amount = (f.combine op amount).map Field.toValue := by
  cases amount <;> simp only [Field.toValue, Value.combine, Field.combine, Except.map]
  cases f.value.combine op (.int _) with
  | error e => rfl
  | ok v =>
    simp only [bind, Except.bind]
    cases Field.tryFrom f.kind v <;> rfl

end CivilTime
