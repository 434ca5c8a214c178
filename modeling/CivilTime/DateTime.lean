import CivilTime.Field

/-!
# Date-times

A date-time has six parts : a year without bounds and five fields, each of the kind of its unit.
Month and day count from zero. No check is made across the parts, so the day 30 of the month 1 is a
date-time.

There are two ways to make one from its parts. `DateTime.ofParts` takes finished fields and checks
their kinds, in the order of the parts and without a look at what they wrap. `DateTime.tryNew` takes
numbers and checks each of them against the range of its field, in the same order. The year is taken
as it is.

`DateTime.new` and `DateTime.replace` name the parts they set; the first one sets the others to
zero, the second one leaves them as they were.
-/

namespace CivilTime

/-! ## The parts -/

/-- The parts of a date-time. -/
inductive Part where
  | year
  | month
  | day
  | hour
  | minute
  | second
  deriving DecidableEq, Repr

namespace Part

/-- All parts, the largest unit first. -/
def all : List Part :=
  [.year, .month, .day, .hour, .minute, .second]

/-- The name of a part. -/
def name : Part → String
  | .year => "year"
  | .month => "month"
  | .day => "day"
  | .hour => "hour"
  | .minute => "minute"
  | .second => "second"

/-- The part of a name. -/
def ofName? (name : String) : Option Part :=
  all.find? fun p => p.name = name

@[simp] theorem ofName?_name (p : Part) : ofName? p.name = some p := by
  cases p <;> decide

/-- The kind of the field of a part. The year is no field. -/
def unit? : Part → Option CalendarUnit
  | .year => none
  | .month => some .month
  | .day => some .day
  | .hour => some .hour
  | .minute => some .minute
  | .second => some .second

/-- The value of a part that is not given : zero. -/
def zero (p : Part) : Value :=
  match p.unit? with
  | none => .int 0
  | some unit => .field (.standard unit) (.int 0)

end Part

/-- A year and five fields. -/
structure DateTime where
  year : Value
  month : Field
  day : Field
  hour : Field
  minute : Field
  second : Field

namespace DateTime

/-- The value of a part. -/
def part (dt : DateTime) : Part → Value
  | .year => dt.year
  | .month => dt.month.toValue
  | .day => dt.day.toValue
  | .hour => dt.hour.toValue
  | .minute => dt.minute.toValue
  | .second => dt.second.toValue

/-! ## Making date-times -/

/-- The field a value is, if it is of the kind of a unit and no other. -/
def requireUnit (p : Part) (unit : CalendarUnit) (v : Value) : Attempt Field :=
  match Field.ofValue? v with
  | some f =>
    if f.kind.same (.standard unit) then .ok f
    else .error (.type (.wrongKind p.name unit.name v.typeName))
  | none => .error (.type (.wrongKind p.name unit.name v.typeName))

/-- The date-time of finished parts, each field of the kind of its unit. -/
def ofParts (parts : Part → Value) : Attempt DateTime := do
  let month ← requireUnit .month .month (parts .month)
  let day ← requireUnit .day .day (parts .day)
  let hour ← requireUnit .hour .hour (parts .hour)
  let minute ← requireUnit .minute .minute (parts .minute)
  let second ← requireUnit .second .second (parts .second)
  return ⟨parts .year, month, day, hour, minute, second⟩

/-- The date-time of six numbers, each checked against the range of its field. -/
def tryNew (year month day hour minute second : Value) : Attempt DateTime := do
  let month ← Field.tryFrom (.standard .month) month
  let day ← Field.tryFrom (.standard .day) day
  let hour ← Field.tryFrom (.standard .hour) hour
  let minute ← Field.tryFrom (.standard .minute) minute
  let second ← Field.tryFrom (.standard .second) second
  return ⟨year, month, day, hour, minute, second⟩

/-- The date-time of a list of numbers, which have to be six. -/
def tryNewOf : List Value → Attempt DateTime
  | [year, month, day, hour, minute, second] => tryNew year month day hour minute second
  | numbers =>
    if numbers.length < Part.all.length then
      .error (.type (.missingArguments ((Part.all.drop numbers.length).map Part.name)))
    else
      .error (.type (.excessArguments (numbers.length + 1)))

/-- The name under which a date-time itself is given, which no part can have. -/
def ownName : String := "self"

/-- Parts with one of them set by its name. -/
def setNamed (parts : Part → Value) (named : String × Value) : Attempt (Part → Value) :=
  match Part.ofName? named.1 with
  | some p => .ok fun q => if q = p then named.2 else parts q
  | none =>
    if named.1 = ownName then .error (.type (.repeatedArgument named.1))
    else .error (.type (.unexpectedArgument named.1))

/-- Parts with some of them set by their names. -/
def setAll (parts : Part → Value) (named : List (String × Value)) : Attempt (Part → Value) :=
  named.foldlM setNamed parts

/-- The date-time with some parts given by their names and zero for the others. -/
def new (named : List (String × Value)) : Attempt DateTime := do
  ofParts (← setAll Part.zero named)

/-- A date-time with some parts replaced. The kinds of all parts are checked again. -/
def replace (dt : DateTime) (named : List (String × Value)) : Attempt DateTime := do
  ofParts (← setAll dt.part named)

/-! ## Comparing and showing date-times -/

/-- Equality : all six parts are equal. -/
def same (a b : DateTime) : Bool :=
  a.year.same b.year && a.month.same b.month && a.day.same b.day && a.hour.same b.hour &&
    a.minute.same b.minute && a.second.same b.second

/-- A date-time with its parts named and their kinds showing. -/
def literal (dt : DateTime) : String :=
  "DateTime(" ++
    ", ".intercalate (Part.all.map fun p => p.name ++ "=" ++ (dt.part p).literal) ++ ")"

/-- Whether the literal would show an integer with too many digits. -/
def oversized (dt : DateTime) : Bool :=
  Part.all.any fun p => (dt.part p).oversized

/-- The literal, unless it would show an integer with too many digits. -/
def literal? (dt : DateTime) : Attempt String :=
  if dt.oversized then .error (.value .tooLongToWrite) else .ok dt.literal

end DateTime

end CivilTime
