import CivilTime.Proofs.Digits
import CivilTime.Value.Integer
import CivilTime.Value.Arithmetic

/-!
# Fields of the calendar units

All checked ways to a field of a calendar unit end in `Field.tryFrom`, which lets the integers of
the unit's range pass and nothing else (`tryFrom_standard_eq_ok_iff`). So a field that came about by
checks alone (`Field.Checked`), however long the chain of sums and differences behind it, holds such
an integer (`Field.Checked.inRange`).

`Field.Holds` is wider : it allows a truth value in the place of a one or a zero, which conversions
and comparisons take for the number (`Field.toInteger_of_holds`, `Value.same_of_integer?`).
-/

namespace CivilTime

/-! ## Attempts in sequence -/

namespace Attempt

variable {α β : Type}

@[simp] theorem ok_bind (a : α) (f : α → Attempt β) : ((.ok a : Attempt α) >>= f) = f a := rfl

@[simp] theorem error_bind (e : Failure) (f : α → Attempt β) :
    ((.error e : Attempt α) >>= f) = .error e := rfl

@[simp] theorem pure_eq_ok (a : α) : (pure a : Attempt α) = .ok a := rfl

/-- A sequence of two succeeds if both do. -/
theorem bind_eq_ok_iff {x : Attempt α} {f : α → Attempt β} {b : β} :
    (x >>= f) = .ok b ↔ ∃ a, x = .ok a ∧ f a = .ok b := by
  cases x <;> simp

end Attempt

/-! ## Whole numbers -/

namespace Value

/-- A value that counts as a whole number is an integer or a truth value. -/
theorem integer?_eq_some_iff {v : Value} {n : Int} :
    v.integer? = some n ↔ v = .int n ∨ ∃ b, v = .bool b ∧ n = if b then 1 else 0 := by
  cases v <;> simp [integer?, eq_comm]

/-- Values that count as whole numbers are equal if the numbers are. -/
theorem same_of_integer? {v w : Value} {m n : Int} (hv : v.integer? = some m)
    (hw : w.integer? = some n) : v.same w = true ↔ m = n := by
  rcases integer?_eq_some_iff.mp hv with rfl | ⟨b, rfl, rfl⟩ <;>
    rcases integer?_eq_some_iff.mp hw with rfl | ⟨c, rfl, rfl⟩ <;>
    simp [same, number?, Number.same]

/-- A value that counts as a whole number is written as that number. -/
theorem format_of_integer? {v : Value} {n : Int} (h : v.integer? = some n) (filling : Filling) :
    v.format filling = filling.write n := by
  rcases integer?_eq_some_iff.mp h with rfl | ⟨b, rfl, rfl⟩ <;> rfl

end Value

theorem Filling.write_zeros {n : Int}
    (h : (Text.naturalDigits n.natAbs).length ≤ Text.digitLimit) (width : Nat) :
    (Filling.zeros width).write n = .ok (String.ofList (Text.zeroPadded width n)) := by
  simp only [Filling.write, (Text.tooLong_eq_false_iff n).mpr h, Bool.false_eq_true, if_false]

theorem Filling.write_blanks {n : Int}
    (h : (Text.naturalDigits n.natAbs).length ≤ Text.digitLimit) (width : Nat) :
    (Filling.blanks width).write n = .ok (String.ofList (Text.blankPadded width n)) := by
  simp only [Filling.write, (Text.tooLong_eq_false_iff n).mpr h, Bool.false_eq_true, if_false]

/-! ## Ranges -/

/-- The failure of a count outside the range of a unit. -/
@[simp] theorem Failure.overflow_unit (u : CalendarUnit) :
    Failure.overflow u.name (.int u.max) = .dateTime (.overflow (.str u.name) (.int u.max)) := by
  have fits : (Value.int u.max).oversized = false := by cases u <;> decide
  simp only [Failure.overflow, fits, Bool.false_eq_true, if_false]

theorem CalendarUnit.max_nonneg (u : CalendarUnit) : 0 ≤ u.max := by
  cases u <;> decide

theorem CalendarUnit.max_le (u : CalendarUnit) : u.max ≤ 60 := by
  cases u <;> decide

namespace Field

/-- A field of a unit that wraps a number of its range. Truth values count as one and zero. -/
structure Holds (f : Field) (u : CalendarUnit) (n : Int) : Prop where
  kind : f.kind = .standard u
  value : f.value.integer? = some n
  nonneg : 0 ≤ n
  le_max : n ≤ u.max

/-- A field of a unit that wraps an integer of its range. -/
def InRange (u : CalendarUnit) (f : Field) : Prop :=
  ∃ n : Int, f = ⟨.standard u, .int n⟩ ∧ 0 ≤ n ∧ n ≤ u.max

theorem InRange.holds {u : CalendarUnit} {f : Field} (h : f.InRange u) :
    ∃ n : Int, f.value = .int n ∧ f.Holds u n := by
  obtain ⟨n, rfl, lower, upper⟩ := h
  exact ⟨n, rfl, rfl, rfl, lower, upper⟩

theorem toInteger_of_holds {f : Field} {u : CalendarUnit} {n : Int} (h : f.Holds u n) :
    f.toInteger = .ok n := by
  simp only [toInteger, integer, h.value]

/-- Fields of one unit are equal if their numbers are. -/
theorem same_of_holds {f g : Field} {u : CalendarUnit} {m n : Int} (hf : f.Holds u m)
    (hg : g.Holds u n) : f.same g = true ↔ m = n := by
  rw [same, hf.kind, hg.kind, Kind.same_self, Bool.true_and,
    Value.same_of_integer? hf.value hg.value]

/-! ## The check of a kind -/

/-- A kind that declares a name and a bound checks for an integer first, then for its range. -/
theorem tryFrom_of_declaration? {k : Kind} {name : String} {max : Value}
    (h : k.declaration? = some (name, max)) (v : Value) :
    tryFrom k v = requireInteger name v >>= fun n =>
      checkRange name max n >>= fun _ => .ok ⟨k, .int n⟩ := by
  cases k with
  | root => cases h
  | standard u =>
    cases h
    rfl
  | declared serial name max parent =>
    cases h
    rfl

theorem tryFrom_of_not_int {k : Kind} {name : String} {max : Value}
    (h : k.declaration? = some (name, max)) {v : Value} (hv : ∀ n, v ≠ .int n) :
    tryFrom k v = .error (.type (.notInteger name v.typeName)) := by
  rw [tryFrom_of_declaration? h]
  cases v with
  | int n => exact absurd rfl (hv n)
  | _ => rfl

/-- Under a bound that counts as a whole number, the integers from zero up to this number pass. -/
theorem tryFrom_int {k : Kind} {name : String} {max : Value} {bound : Int}
    (h : k.declaration? = some (name, max)) (whole : max.integer? = some bound) (n : Int) :
    tryFrom k (.int n) =
      if 0 ≤ n ∧ n ≤ bound then .ok ⟨k, .int n⟩ else .error (.overflow name max) := by
  have check : tryFrom k (.int n) = checkRange name max n >>= fun _ => .ok ⟨k, .int n⟩ :=
    tryFrom_of_declaration? h (.int n)
  rw [check, checkRange_of_integer? whole]
  split <;> rfl

/-! ## The check of a unit -/

theorem tryFrom_standard_int (u : CalendarUnit) (n : Int) :
    tryFrom (.standard u) (.int n) =
      if 0 ≤ n ∧ n ≤ u.max then .ok ⟨.standard u, .int n⟩
      else .error (.dateTime (.overflow (.str u.name) (.int u.max))) := by
  rw [tryFrom_int (Kind.declaration?_standard u) rfl, Failure.overflow_unit]

theorem tryFrom_standard_of_le {u : CalendarUnit} {n : Int} (lower : 0 ≤ n) (upper : n ≤ u.max) :
    tryFrom (.standard u) (.int n) = .ok ⟨.standard u, .int n⟩ := by
  rw [tryFrom_standard_int, if_pos ⟨lower, upper⟩]

theorem tryFrom_standard_of_gt {u : CalendarUnit} {n : Int} (h : u.max < n) :
    tryFrom (.standard u) (.int n) =
      .error (.dateTime (.overflow (.str u.name) (.int u.max))) := by
  rw [tryFrom_standard_int, if_neg (by omega)]

theorem tryFrom_standard_eq_ok_iff {u : CalendarUnit} {n : Int} {f : Field} :
    tryFrom (.standard u) (.int n) = .ok f ↔
      (0 ≤ n ∧ n ≤ u.max) ∧ f = ⟨.standard u, .int n⟩ := by
  rw [tryFrom_standard_int]
  split <;> simp [*, eq_comm]

/-- Only integers pass a check. -/
theorem exists_int_of_tryFrom {k : Kind} {v : Value} {f : Field} (h : tryFrom k v = .ok f) :
    ∃ n : Int, v = .int n ∧ f = ⟨k, .int n⟩ := by
  obtain ⟨name, -, h⟩ := Attempt.bind_eq_ok_iff.mp h
  obtain ⟨n, hn, h⟩ := Attempt.bind_eq_ok_iff.mp h
  obtain ⟨max, -, h⟩ := Attempt.bind_eq_ok_iff.mp h
  obtain ⟨_, -, h⟩ := Attempt.bind_eq_ok_iff.mp h
  cases v <;> simp [requireInteger] at hn
  subst hn
  exact ⟨_, rfl, (Except.ok.inj h).symm⟩

theorem kind_of_tryFrom {k : Kind} {v : Value} {f : Field} (h : tryFrom k v = .ok f) :
    f.kind = k := by
  obtain ⟨n, -, rfl⟩ := exists_int_of_tryFrom h
  rfl

theorem inRange_of_tryFrom {k : Kind} {v : Value} {f : Field} (h : tryFrom k v = .ok f)
    {u : CalendarUnit} (hkind : f.kind = .standard u) : f.InRange u := by
  obtain ⟨n, rfl, rfl⟩ := exists_int_of_tryFrom h
  obtain rfl : k = .standard u := hkind
  exact ⟨n, rfl, (tryFrom_standard_eq_ok_iff.mp h).1⟩

theorem parse_str (k : Kind) (text : String) :
    parse k (.str text) = readNumeral text >>= fun n => tryFrom k (.int n) := rfl

theorem combine_standard_int (op : Operation) (u : CalendarUnit) (m n : Int) :
    combine op ⟨.standard u, .int m⟩ (.int n) =
      tryFrom (.standard u) (.int (op.onIntegers m n)) := rfl

/-! ## Fields that came about by checks -/

/-- A field that came about by checks alone. -/
inductive Checked : Field → Prop
  | made {k : Kind} {v : Value} {f : Field} : new k v = .ok f → Checked f
  | converted {k : Kind} {v : Value} {f : Field} : tryFrom k v = .ok f → Checked f
  | read {k : Kind} {text : Value} {f : Field} : parse k text = .ok f → Checked f
  | derived {f g : Field} {op : Operation} {amount : Value} :
    Checked f → f.combine op amount = .ok g → Checked g

/-- Where a kind declares a bound, a check afterwards is a check before. -/
theorem new_eq_tryFrom {k : Kind} (h : k ≠ .root) (v : Value) : new k v = tryFrom k v := by
  cases k with
  | root => exact absurd rfl h
  | standard u => cases v <;> rfl
  | declared serial name max parent => cases v <;> rfl

theorem tryFrom_of_new {k : Kind} {v : Value} {f : Field} (h : new k v = .ok f) :
    tryFrom k v = .ok f := by
  have hk : k ≠ .root := by
    rintro rfl
    cases h
  rw [← new_eq_tryFrom hk, h]

theorem exists_tryFrom_of_parse {k : Kind} {text : Value} {f : Field}
    (h : parse k text = .ok f) : ∃ v, tryFrom k v = .ok f := by
  obtain ⟨n, -, h⟩ := Attempt.bind_eq_ok_iff.mp h
  exact ⟨_, h⟩

theorem exists_tryFrom_of_combine {op : Operation} {f g : Field} {amount : Value}
    (h : f.combine op amount = .ok g) : ∃ v, tryFrom f.kind v = .ok g := by
  cases amount <;> simp only [combine, reduceCtorEq] at h
  obtain ⟨v, -, h⟩ := Attempt.bind_eq_ok_iff.mp h
  exact ⟨v, h⟩

/-- Every chain of checked ways ends in a check of the field's own kind. -/
theorem Checked.exists_tryFrom {f : Field} (h : f.Checked) : ∃ k v, tryFrom k v = .ok f := by
  cases h with
  | made h => exact ⟨_, _, tryFrom_of_new h⟩
  | converted h => exact ⟨_, _, h⟩
  | read h => exact ⟨_, exists_tryFrom_of_parse h⟩
  | derived _ h => exact ⟨_, exists_tryFrom_of_combine h⟩

/-- A checked field of a unit holds an integer of the unit's range. -/
theorem Checked.inRange {f : Field} (h : f.Checked) {u : CalendarUnit}
    (hkind : f.kind = .standard u) : f.InRange u := by
  obtain ⟨k, v, hv⟩ := h.exists_tryFrom
  exact inRange_of_tryFrom hv hkind

end Field

end CivilTime
