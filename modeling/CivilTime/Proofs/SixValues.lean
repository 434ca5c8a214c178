import CivilTime.Proofs.Refusals

/-!
# Date-times of six values

A date-time is made of six values of any types. The year is taken whatever it is; of the other
five, each has to be an integer in the range of its unit (`Part.fault?`), and the first one that is
not, from the month to the second, decides (`DateTime.tryNewOf_eq_refusedBy`). What comes after it
is not looked at, so it may be anything (`DateTime.tryNewOf_arguments`).

To make the five fields first and put them together then comes to the same, in every case
(`DateTime.newOfValues_eq`).
-/

namespace CivilTime

/-! ## Results that may be refused -/

namespace Attempt

variable {α β : Type}

/-- A result, unless there is a cause to refuse it. -/
def refusedBy (fault? : Option Failure) (a : α) : Attempt α :=
  match fault? with
  | none => .ok a
  | some cause => .error cause

variable {fault? rest : Option Failure} {a : α}

/-- Of two causes in sequence the first one goes before the second. -/
theorem refusedBy_bind {b : β} {f : α → Attempt β} (h : f a = refusedBy rest b) :
    (refusedBy fault? a >>= f) = refusedBy (fault?.or rest) b := by
  cases fault? with
  | none => exact h
  | some cause => rfl

theorem refusedBy_eq_ok_iff {b : α} : refusedBy fault? a = .ok b ↔ fault? = none ∧ a = b := by
  cases fault? <;> simp [refusedBy]

theorem refusedBy_eq_error_iff {cause : Failure} :
    refusedBy fault? a = .error cause ↔ fault? = some cause := by
  cases fault? <;> simp [refusedBy]

end Attempt

/-! ## One value -/

/-- Why a value is no count of a unit. -/
def CalendarUnit.fault? (u : CalendarUnit) : Value → Option Failure
  | .int n => if 0 ≤ n ∧ n ≤ u.max then none else some (.dateTime (DateTime.outOfRange u))
  | v => some (.type (.notInteger u.name v.typeName))

/-- Why a value cannot be given for a part. Any value can be given for the year. -/
def Part.fault? (p : Part) (v : Value) : Option Failure :=
  p.unit?.bind fun u => u.fault? v

theorem CalendarUnit.fault?_eq_none_iff {u : CalendarUnit} {v : Value} :
    u.fault? v = none ↔ ∃ n : Int, v = .int n ∧ 0 ≤ n ∧ n ≤ u.max := by
  cases v <;> simp [fault?]

theorem Field.tryFrom_eq_refusedBy (u : CalendarUnit) (v : Value) :
    tryFrom (.standard u) v = Attempt.refusedBy (u.fault? v) ⟨.standard u, v⟩ := by
  by_cases integer : ∃ n, v = .int n
  · obtain ⟨n, rfl⟩ := integer
    rw [tryFrom_standard_int, CalendarUnit.fault?]
    split <;> rfl
  · rw [tryFrom_of_not_int (Kind.declaration?_standard u) (not_exists.mp integer)]
    cases v with
    | int n => exact absurd ⟨n, rfl⟩ integer
    | _ => rfl

namespace DateTime

variable (args : Part → Value)

/-! ## Six values -/

/-- The date-time that holds six values. -/
def ofValues : DateTime where
  year := args .year
  month := ⟨.standard .month, args .month⟩
  day := ⟨.standard .day, args .day⟩
  hour := ⟨.standard .hour, args .hour⟩
  minute := ⟨.standard .minute, args .minute⟩
  second := ⟨.standard .second, args .second⟩

/-- The date-time of a year and five finished fields. -/
def newOfFields (year : Value) (month day hour minute second : Field) : Attempt DateTime :=
  new [(Part.year.name, year), (Part.month.name, month.toValue), (Part.day.name, day.toValue),
    (Part.hour.name, hour.toValue), (Part.minute.name, minute.toValue),
    (Part.second.name, second.toValue)]

/-- The date-time of six values, where each of the five fields is made before they are put
together. -/
def newOfValues : Attempt DateTime := do
  let month ← Field.new (.standard .month) (args .month)
  let day ← Field.new (.standard .day) (args .day)
  let hour ← Field.new (.standard .hour) (args .hour)
  let minute ← Field.new (.standard .minute) (args .minute)
  let second ← Field.new (.standard .second) (args .second)
  newOfFields (args .year) month day hour minute second

/-- Why six values make no date-time : the first cause there is, in the order of the parts. -/
def valuesFault? : Option Failure :=
  Part.all.findSome? fun p => p.fault? (args p)

/-- If five fields are checked in the order of the parts and then put together, whatever way, the
first cause there is decides. -/
theorem bind_fields_eq_refusedBy (f : Field → Field → Field → Field → Field → Attempt DateTime)
    (h : f (ofValues args).month (ofValues args).day (ofValues args).hour (ofValues args).minute
      (ofValues args).second = .ok (ofValues args)) :
    (do
      let month ← Field.tryFrom (.standard .month) (args .month)
      let day ← Field.tryFrom (.standard .day) (args .day)
      let hour ← Field.tryFrom (.standard .hour) (args .hour)
      let minute ← Field.tryFrom (.standard .minute) (args .minute)
      let second ← Field.tryFrom (.standard .second) (args .second)
      f month day hour minute second) =
    Attempt.refusedBy (valuesFault? args) (ofValues args) := by
  have order : valuesFault? args =
      (CalendarUnit.month.fault? (args .month)).or ((CalendarUnit.day.fault? (args .day)).or
        ((CalendarUnit.hour.fault? (args .hour)).or ((CalendarUnit.minute.fault? (args .minute)).or
          ((CalendarUnit.second.fault? (args .second)).or none)))) := by
    simp only [valuesFault?, Part.all, findSome?_cons_eq_or]
    rfl
  simp only [Field.tryFrom_eq_refusedBy, order]
  exact Attempt.refusedBy_bind (Attempt.refusedBy_bind (Attempt.refusedBy_bind
    (Attempt.refusedBy_bind (Attempt.refusedBy_bind h))))

/-- Of six values the first one that cannot be given for its part decides. -/
theorem tryNewOf_eq_refusedBy :
    tryNewOf (Part.all.map args) = Attempt.refusedBy (valuesFault? args) (ofValues args) :=
  bind_fields_eq_refusedBy args
    (fun month day hour minute second => .ok ⟨args .year, month, day, hour, minute, second⟩) rfl

/-- It makes no difference whether the fields are finished first. -/
theorem newOfValues_eq : newOfValues args = tryNewOf (Part.all.map args) := by
  have standard (u : CalendarUnit) : Kind.standard u ≠ .root := nofun
  rw [tryNewOf_eq_refusedBy, ← bind_fields_eq_refusedBy args (newOfFields (args .year)) rfl]
  simp only [newOfValues, Field.new_eq_tryFrom (standard _)]

theorem valuesFault?_eq_none_iff : valuesFault? args = none ↔
    ∀ p u, p.unit? = some u → ∃ n : Int, args p = .int n ∧ 0 ≤ n ∧ n ≤ u.max := by
  simp only [valuesFault?, List.findSome?_eq_none_iff, Part.fault?, Option.bind_eq_none_iff,
    CalendarUnit.fault?_eq_none_iff]
  refine ⟨fun clean p => clean p ?_, fun clean p _ => clean p⟩
  cases p <;> decide

/-- Whether the value of a part is the first that cannot be given for its part, and why. The parts
before it are `before`. -/
structure FirstFault (before : List Part) (p : Part) (cause : Failure) : Prop where
  order : ∃ after, Part.all = before ++ p :: after
  passed : ∀ q ∈ before, q.fault? (args q) = none
  failed : p.fault? (args p) = some cause

theorem valuesFault?_eq_some_iff {cause : Failure} :
    valuesFault? args = some cause ↔ ∃ before p, FirstFault args before p cause := by
  rw [valuesFault?, List.findSome?_eq_some_iff]
  constructor
  · rintro ⟨before, p, after, order, failed, passed⟩
    exact ⟨before, p, ⟨after, order⟩, passed, failed⟩
  · rintro ⟨before, p, ⟨after, order⟩, passed, failed⟩
    exact ⟨before, p, after, order, failed, passed⟩

variable {args} in
/-- The values of later parts do not matter. -/
theorem FirstFault.congr {before : List Part} {p : Part} {cause : Failure}
    (h : FirstFault args before p cause) {other : Part → Value}
    (same : ∀ q ∈ before ++ [p], other q = args q) : FirstFault other before p cause where
  order := h.order
  passed q hq := by
    rw [same q (List.mem_append_left _ hq)]
    exact h.passed q hq
  failed := by
    rw [same p (List.mem_append_right _ (List.mem_singleton_self p))]
    exact h.failed

/-- Six values make a date-time exactly if each of them but the year is an integer in the range of
its unit. It holds the values as they were given, and is the one that is put together from the
fields of the values. If they make none, the cause is that of the first value that cannot be given
for its part, and the same with any other values in the place of those after it. -/
theorem tryNewOf_arguments :
    ((∃ dt, tryNewOf (Part.all.map args) = .ok dt) ↔
      ∀ p u, p.unit? = some u → ∃ n : Int, args p = .int n ∧ 0 ≤ n ∧ n ≤ u.max) ∧
    (∀ dt, tryNewOf (Part.all.map args) = .ok dt →
      dt.year = args .year ∧ (∀ p u, p.unit? = some u → dt.part p = .field (.standard u) (args p)) ∧
        newOfValues args = .ok dt) ∧
    (∀ cause, tryNewOf (Part.all.map args) = .error cause ↔
      ∃ before p, FirstFault args before p cause) ∧
    ∀ before p cause, FirstFault args before p cause →
      ∀ other : Part → Value, (∀ q ∈ before ++ [p], other q = args q) →
        tryNewOf (Part.all.map other) = .error cause := by
  have refused : ∀ {given cause}, tryNewOf (Part.all.map given) = .error cause ↔
      ∃ before p, FirstFault given before p cause := by
    intro given cause
    rw [tryNewOf_eq_refusedBy, Attempt.refusedBy_eq_error_iff, valuesFault?_eq_some_iff]
  refine ⟨?_, fun dt made => ?_, fun _ => refused, fun before p cause fault other same =>
    refused.mpr ⟨before, p, fault.congr same⟩⟩
  · simp only [tryNewOf_eq_refusedBy, Attempt.refusedBy_eq_ok_iff, exists_eq_right',
      valuesFault?_eq_none_iff]
  · have held := made
    rw [tryNewOf_eq_refusedBy, Attempt.refusedBy_eq_ok_iff] at held
    obtain ⟨-, rfl⟩ := held
    refine ⟨rfl, fun p u hu => ?_, (newOfValues_eq args).trans made⟩
    cases p <;> cases hu <;> rfl

/-- Six values of which only the year and the month can be given for their parts. -/
def mostlyWrong : Part → Value
  | .year => .str "x"
  | .month => .int 12
  | .day => .bool true
  | .hour => .int 25
  | .minute => .null
  | .second => .int (-1)

/-- The same year, month and day, at midnight. -/
def mostlyMended : Part → Value
  | .hour | .minute | .second => .int 0
  | p => mostlyWrong p

/-- The truth value in the place of the day decides, and still does if the time is mended. -/
theorem tryNewOf_mostlyWrong :
    FirstFault mostlyWrong [.year, .month] .day (.type (.notInteger "Day" "bool")) ∧
      tryNewOf (Part.all.map mostlyWrong) = .error (.type (.notInteger "Day" "bool")) ∧
      tryNewOf (Part.all.map mostlyMended) = .error (.type (.notInteger "Day" "bool")) := by
  have fault : FirstFault mostlyWrong [.year, .month] .day (.type (.notInteger "Day" "bool")) :=
    ⟨⟨[.hour, .minute, .second], rfl⟩, by decide, rfl⟩
  have same : ∀ q ∈ [Part.year, .month] ++ [.day], mostlyMended q = mostlyWrong q := by
    simp [mostlyMended]
  obtain ⟨-, -, refused, independent⟩ := tryNewOf_arguments mostlyWrong
  exact ⟨fault, (refused _).mpr ⟨_, _, fault⟩, independent _ _ _ fault mostlyMended same⟩

end DateTime

end CivilTime
