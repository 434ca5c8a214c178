import CivilTime.Failure

/-!
# Declaring kinds and checking their bounds

A kind is declared under a name, with a bound and nothing else (`Kind.declare`). Any value is taken
as the bound; what it is worth shows when a count is compared with it (`Value.isBelow`).

`requireInteger` lets integers pass and nothing else, not even truth values. `checkRange` then
compares with zero first and with the bound second, so a negative count is refused under every
bound.
-/

namespace CivilTime

namespace Kind

/-- The kind declared under a name as a descendant of `parent`. A name has no character zero in it,
and a declaration states a bound and no further property. -/
def declare (serial : Nat) (name : String) (max? : Option Value) (extra : Bool) (parent : Kind) :
    Attempt Kind :=
  if '\x00' ∈ name.toList then .error (.value .nullInName)
  else match max? with
  | none => .error (.type .missingMax)
  | some max =>
    if extra then .error (.type (.extraKeyword name)) else .ok (.declared serial name max parent)

/-- The name and the bound a kind declares. -/
def declaration? (k : Kind) : Option (String × Value) :=
  match k.name?, k.max? with
  | some name, some max => some (name, max)
  | _, _ => none

@[simp] theorem declaration?_standard (u : CalendarUnit) :
    declaration? (.standard u) = some (u.name, .int u.max) := rfl

/-- A kind that declares a name and a bound is called by this name. -/
theorem typeName_of_declaration? {k : Kind} {name : String} {max : Value}
    (h : k.declaration? = some (name, max)) : k.typeName = name := by
  cases k with
  | root => cases h
  | standard u =>
    cases h
    rfl
  | declared serial name max parent =>
    cases h
    rfl

/-- The name a kind declares; an attribute error of the type without one. -/
def requireName (k : Kind) : Attempt String :=
  match k.name? with
  | some name => .ok name
  | none => .error (.member (.ofType k.typeName "NAME"))

/-- The bound a kind declares; an attribute error of the type without one. -/
def requireMax (k : Kind) : Attempt Value :=
  match k.max? with
  | some max => .ok max
  | none => .error (.member (.ofType k.typeName "MAX"))

end Kind

/-- Whether a bound lies below a count. Only numbers are comparable with a count. -/
def Value.isBelow (bound : Value) (count : Int) : Attempt Bool :=
  match bound.number? with
  | some limit => .ok (limit.less (.int count))
  | none => .error (.type (.ordering ">" "int" bound.typeName))

/-- A bound that counts as a whole number lies below the counts that this number lies below. -/
theorem Value.isBelow_of_integer? {max : Value} {bound : Int} (h : max.integer? = some bound)
    (count : Int) : max.isBelow count = .ok (decide (bound < count)) := by
  cases max with
  | bool b =>
    obtain rfl := Option.some.inj h
    rfl
  | int n =>
    obtain rfl := Option.some.inj h
    rfl
  | _ => cases h

/-- The integer a field called `name` is given. Truth values are no integers here. -/
def requireInteger (name : String) : Value → Attempt Int
  | .int n => .ok n
  | v => .error (.type (.notInteger name v.typeName))

/-- Checks that a count lies between zero and the bound, both included. -/
def checkRange (name : String) (max : Value) (count : Int) : Attempt Unit :=
  if count < 0 then .error (.overflow name max)
  else do
    if ← max.isBelow count then .error (.overflow name max)

/-- Under a bound that counts as a whole number, the counts from zero up to this number pass. -/
theorem checkRange_of_integer? {max : Value} {bound : Int} (h : max.integer? = some bound)
    (name : String) (count : Int) :
    checkRange name max count =
      if 0 ≤ count ∧ count ≤ bound then .ok () else .error (.overflow name max) := by
  unfold checkRange
  rw [Value.isBelow_of_integer? h]
  by_cases lower : count < 0
  · have range : ¬(0 ≤ count ∧ count ≤ bound) := by omega
    simp only [lower, range, if_true, if_false]
  · by_cases upper : bound < count
    · simp [lower, upper, bind, Except.bind]
    · have range : 0 ≤ count ∧ count ≤ bound := by omega
      simp [lower, upper, range, bind, Except.bind, pure, Except.pure]

end CivilTime
