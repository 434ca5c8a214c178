import CivilTime.Field.Instance
import CivilTime.Value.Arithmetic
import CivilTime.Value.Integer
import CivilTime.Value.Sequence

/-!
# Runs of operations on a field

A `Query` is a question about a field, with its operand, and `Query.answer` answers it. A run keeps
the current field : an answer that is a field of the very same kind takes its place, any other
answer and every failure leave it where it was (`Instance.after`). A `Step` of a run is a query or
the assignment or deletion of an attribute, which changes the current field itself. A step whose
operand cannot be made fails and does nothing else.
-/

namespace CivilTime

/-! ## Fields as numbers and indices -/

namespace Field

/-- An integer in hexadecimal. -/
def hexText (n : Int) : String :=
  (if n < 0 then "-0x" else "0x") ++ String.ofList (Nat.toDigits 16 n.natAbs)

/-- A field as a floating-point number. -/
def toFloat (f : Field) : Attempt Value := do
  match Binary64.ofInt? (← f.toIndex) with
  | some x => return .float x
  | none => .error (.range .toFloat)

/-- The length of the range of integers from zero up to a field, the field excluded. -/
def rangeLength (f : Field) : Attempt Value := do
  let n ← f.toIndex
  if n ≤ 0 then return .int 0
  else if Value.isIndex n then return .int n
  else .error (.range .toLength)

/-- What the hash of a value depends on, or the failure of a value without a hash. -/
def requireHash (v : Value) : Attempt HashKey :=
  match v.hashKey, v.unhashable? with
  | some key, _ => .ok key
  | none, type? => .error (.type (.unhashable (type?.getD v.typeName)))

/-- The item of a text or list at the place a field gives. A mapping has no field among its keys. -/
def itemOf (f : Field) (sequence : Value) : Attempt Value := do
  match sequence with
  | .str s =>
    let i ← f.toIndex
    if !Value.isIndex i then .error (.index (.tooLarge f.kind.typeName))
    else match Value.itemAt? s.toList i with
      | some c => return .str (String.ofList [c])
      | none => .error (.index (.outOfRange "string"))
  | .list items =>
    let i ← f.toIndex
    if !Value.isIndex i then .error (.index (.tooLarge f.kind.typeName))
    else match Value.itemAt? items i with
      | some v => return v
      | none => .error (.index (.outOfRange "list"))
  | .dict _ =>
    let _ ← requireHash f.toValue
    .error (.key f.toValue)
  | v => .error (.type (.notSubscriptable v.typeName))

/-- A sequence repeated as often as a field says. -/
def repeatBy (f : Field) (repetition : Int → Attempt Value) : Attempt Value := do
  let count ← f.toIndex
  if Value.isIndex count then repetition count else .error (.range (.toIndex f.kind.typeName))

/-- The product of a field and a value. Only texts and lists can be multiplied with a field. -/
def times (f : Field) (limits : Limits) (v : Value) : Attempt Value :=
  match v.repetition? limits with
  | some repetition => f.repeatBy repetition
  | none => .error (Value.noOperation "*" f.toValue v)

/-- The product of a value and a field. -/
def timesLeft (f : Field) (limits : Limits) (v : Value) : Attempt Value :=
  match v.repetition? limits with
  | some repetition => f.repeatBy repetition
  | none => .error (Value.noOperation "*" v f.toValue)

/-- The number of members of the set of a field and the items of a value. -/
def distinctWith (f : Field) (v : Value) : Attempt Value := do
  let _ ← requireHash f.toValue
  let items ← v.items
  let _ ← items.mapM requireHash
  return .int (distinctBy Value.same (f.toValue :: items)).length

/-- Whether a field and a value have the same hash. -/
def sameHash (f : Field) (v : Value) : Attempt Value := do
  let a ← requireHash f.toValue
  let b ← requireHash v
  return .bool (a.same b)

end Field

/-! ## Queries and steps -/

/-- A question about the current field. A product depends on the memory that there is when it is
asked for. -/
inductive Query where
  | add (operand : Value)
  | sub (operand : Value)
  | addedTo (operand : Value)
  | subtractedFrom (operand : Value)
  | times (operand : Value) (limits : Limits := .usual)
  | timesLeft (operand : Value) (limits : Limits := .usual)
  | itemOf (sequence : Value)
  | equal (operand : Value)
  | different (operand : Value)
  | less (operand : Value)
  | atLeast (operand : Value)
  | sameHash (operand : Value)
  | distinct (operands : Value)
  | parse (text : Value)
  | tryFrom (value : Value)
  | unchecked (value : Value)
  | toInteger
  | toIndex
  | hex
  | truth
  | display
  | toFloat
  | rangeLength
  | negate

/-- The answer to a question about a field. -/
def Query.answer (f : Field) : Query → Attempt Value
  | .add x => (f.combine .add x).map Field.toValue
  | .sub x => (f.combine .sub x).map Field.toValue
  | .addedTo x => x.combine .add f.toValue
  | .subtractedFrom x => x.combine .sub f.toValue
  | .times x limits => f.times limits x
  | .timesLeft x limits => f.timesLeft limits x
  | .itemOf xs => f.itemOf xs
  | .equal x => .ok (.bool (f.toValue.same x))
  | .different x => .ok (.bool (!f.toValue.same x))
  | .less x => .error (.type (.ordering "<" f.kind.typeName x.typeName))
  | .atLeast x => .error (.type (.ordering ">=" f.kind.typeName x.typeName))
  | .sameHash x => f.sameHash x
  | .distinct xs => f.distinctWith xs
  | .parse text => (Field.parse f.kind text).map Field.toValue
  | .tryFrom v => (Field.tryFrom f.kind v).map Field.toValue
  | .unchecked v => .ok (Field.unchecked f.kind v).toValue
  | .toInteger => f.toInteger.map .int
  | .toIndex => f.toIndex.map .int
  | .hex => f.toIndex.map fun n => .str (Field.hexText n)
  | .truth => .ok (.bool true)
  | .display => f.toValue.literal?.map .str
  | .toFloat => f.toFloat
  | .rangeLength => f.rangeLength
  | .negate => .error (.type (.operand "-" f.kind.typeName))

/-- A step of a run on a field. -/
inductive Step where
  | ask (query : Query)
  | assign (name : String) (value : Value)
  | delete (name : String)
  /-- A step whose operand cannot be made, and why. -/
  | refused (cause : Failure)

namespace Instance

/-- The current field after an answer. -/
def after (i : Instance) (answer : Attempt Value) : Instance :=
  match answer with
  | .ok (.field kind value) => if kind.same i.kind then ofField ⟨kind, value⟩ else i
  | _ => i

/-- The current field after a change of its attributes, and the answer. -/
def change (i : Instance) (result : Attempt Instance) : Instance × Attempt Value :=
  match result with
  | .ok j => (j, .ok .null)
  | .error e => (i, .error e)

/-- The current field after a step, and the answer. -/
def step (i : Instance) : Step → Instance × Attempt Value
  | .ask q => (i.after (q.answer i.toField), q.answer i.toField)
  | .assign name v => i.change (i.assign name v)
  | .delete name => i.change (i.delete name)
  | .refused cause => (i, .error cause)

/-- The current field after a run. -/
def final (i : Instance) (steps : List Step) : Instance :=
  steps.foldl (fun j s => (j.step s).1) i

/-- The answers of a run, each with the value of the field after it. -/
def run (i : Instance) : List Step → List (Attempt Value × Value)
  | [] => []
  | s :: rest => ((i.step s).2, (i.step s).1.value) :: (i.step s).1.run rest

end Instance

end CivilTime
