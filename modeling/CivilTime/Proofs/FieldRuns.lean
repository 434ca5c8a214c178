import CivilTime.Field.Run
import CivilTime.Proofs.Fields
import Mathlib.Algebra.Ring.Int.Defs

/-!
# Runs of sums and differences

A shift adds an operand to a field or takes it away (`Shift`). In a run of shifts one that fails
leaves the field as it was, and one that succeeds puts a field of the same kind in its place. Under
a bound that counts as a whole number (`Kind.HasBound`) a shift of a whole number has one of three
endings (`Shifted`, `Instance.shifted_step`).

So after a run the field wraps the number it started with plus the amounts of the shifts that
succeeded (`Instance.AfterShifts`), and as soon as one of them has succeeded this number lies in the
range of the kind, wherever the run started (`Instance.afterShifts_final`). The main statement
`Instance.exists_count_of_shifts` adds what the next shift does.
-/

namespace CivilTime

/-! ## Bounds -/

/-- Whether a kind declares a name, and a bound that counts as a whole number that can be
written. -/
structure Kind.HasBound (k : Kind) (name : String) (max : Value) (bound : Int) : Prop where
  declared : k.declaration? = some (name, max)
  whole : max.integer? = some bound
  short : (Text.naturalDigits bound.natAbs).length ≤ 4300

/-- The failure of a number out of range names the kind and its bound. -/
theorem Kind.HasBound.overflow {k : Kind} {name : String} {max : Value} {bound : Int}
    (h : k.HasBound name max bound) :
    Failure.overflow name max = .dateTime (.overflow (.str name) max) := by
  have fits : max.oversized = false := by
    rcases Value.integer?_eq_some_iff.mp h.whole with rfl | ⟨b, rfl, -⟩
    · exact (Text.tooLong_eq_false_iff bound).mpr h.short
    · rfl
  simp only [Failure.overflow, fits, Bool.false_eq_true, if_false]

/-! ## Sums and differences of whole numbers -/

/-- What an operation adds to its left side. -/
theorem Operation.onIntegers_eq_add (op : Operation) (m n : Int) :
    op.onIntegers m n = m + op.onIntegers 0 n := by
  cases op <;> simp only [onIntegers] <;> omega

namespace Field

variable {f : Field} {m : Int}

theorem combine_int (h : f.value.integer? = some m) (op : Operation) (n : Int) :
    f.combine op (.int n) = tryFrom f.kind (.int (op.onIntegers m n)) := by
  obtain ⟨k, v⟩ := f
  rcases Value.integer?_eq_some_iff.mp h with rfl | ⟨b, rfl, rfl⟩ <;> rfl

theorem combine_of_not_int (f : Field) (op : Operation) {x : Value} (h : ∀ n, x ≠ .int n) :
    f.combine op x = .error (.type (.operands op.symbol f.kind.typeName x.typeName)) := by
  cases x with
  | int n => exact absurd rfl (h n)
  | _ => rfl

/-- What was added to a field in its range can be taken away again. -/
theorem exists_combine_sub {k : Kind} {name : String} {max : Value} {bound : Int}
    (hk : k.HasBound name max bound) (kind : f.kind = k) (h : f.value.integer? = some m)
    (lower : 0 ≤ m) (upper : m ≤ bound) {x : Value} {g : Field} (sum : f.combine .add x = .ok g) :
    ∃ back, g.combine .sub x = .ok back ∧ back.same f = true := by
  subst kind
  obtain ⟨n, rfl⟩ : ∃ n, x = .int n := by
    by_contra other
    rw [combine_of_not_int f .add (not_exists.mp other)] at sum
    cases sum
  rw [combine_int h] at sum
  obtain ⟨r, same, rfl⟩ := exists_int_of_tryFrom sum
  obtain rfl := Value.int.inj same
  have back : Operation.sub.onIntegers (Operation.add.onIntegers m n) n = m := by
    simp only [Operation.onIntegers]
    omega
  refine ⟨⟨f.kind, .int m⟩, ?_, ?_⟩
  · rw [combine_int rfl, back, tryFrom_int hk.declared hk.whole, if_pos ⟨lower, upper⟩]
  · have values : (Value.int m).same f.value = true := (Value.same_of_integer? rfl h).mpr rfl
    simp [Field.same, values]

end Field

/-! ## One shift -/

/-- An operand that is added to a field or taken away from it. -/
structure Shift where
  op : Operation
  operand : Value

namespace Shift

/-- The question for the sum or the difference. -/
def query (s : Shift) : Query :=
  match s.op with
  | .add => .add s.operand
  | .sub => .sub s.operand

/-- The step of a run that makes a shift. -/
def step (s : Shift) : Step :=
  .ask s.query

/-- What an integer operand adds to a number, with its sign. -/
def amount (s : Shift) : Int :=
  match s.operand with
  | .int n => s.op.onIntegers 0 n
  | _ => 0

theorem answer_query (s : Shift) (f : Field) :
    s.query.answer f = (f.combine s.op s.operand).map Field.toValue := by
  obtain ⟨op, x⟩ := s
  cases op <;> rfl

theorem amount_of_int {s : Shift} {n : Int} (h : s.operand = .int n) (m : Int) :
    s.op.onIntegers m n = m + s.amount := by
  rw [amount, h, Operation.onIntegers_eq_add]

end Shift

/-- The endings of a shift of a field that wraps the whole number `m` : the field after it and the
answer. -/
inductive Shifted (k : Kind) (name : String) (max : Value) (bound : Int) (i : Instance) (m : Int)
    (s : Shift) : Instance × Attempt Value → Prop
  /-- The operand is an integer, and the sum is in the range of the kind. -/
  | moved {n : Int} : s.operand = .int n →
    0 ≤ s.op.onIntegers m n ∧ s.op.onIntegers m n ≤ bound →
    Shifted k name max bound i m s (.ofField ⟨k, .int (s.op.onIntegers m n)⟩,
      .ok (.field k (.int (s.op.onIntegers m n))))
  /-- The operand is an integer, and the sum is not in the range of the kind. -/
  | outside {n : Int} : s.operand = .int n →
    ¬(0 ≤ s.op.onIntegers m n ∧ s.op.onIntegers m n ≤ bound) →
    Shifted k name max bound i m s (i, .error (.dateTime (.overflow (.str name) max)))
  /-- The operand is no integer. -/
  | noInteger : (∀ n, s.operand ≠ .int n) →
    Shifted k name max bound i m s
      (i, .error (.type (.operands s.op.symbol name s.operand.typeName)))

/-- A shift succeeds exactly if its operand is an integer and the sum is in the range. -/
theorem Shifted.exists_ok_iff {k : Kind} {name : String} {max : Value} {bound : Int} {i : Instance}
    {m : Int} {s : Shift} {r : Instance × Attempt Value} (h : Shifted k name max bound i m s r) :
    (∃ answer, r.2 = .ok answer) ↔ ∃ n, s.operand = .int n ∧ 0 ≤ s.op.onIntegers m n ∧
      s.op.onIntegers m n ≤ bound := by
  cases h with
  | moved operand range => exact ⟨fun _ => ⟨_, operand, range⟩, fun _ => ⟨_, rfl⟩⟩
  | outside operand range =>
    refine ⟨nofun, fun ⟨n, same, inside⟩ => absurd ?_ range⟩
    obtain rfl := Value.int.inj (operand.symm.trans same)
    exact inside
  | noInteger operand => exact ⟨nofun, fun ⟨n, same, _⟩ => absurd same (operand n)⟩

namespace Instance

section

variable {k : Kind} {name : String} {max : Value} {bound : Int}

theorem shifted_step (hk : k.HasBound name max bound) {i : Instance} (kind : i.kind = k) {m : Int}
    (count : i.value.integer? = some m) (s : Shift) :
    Shifted k name max bound i m s (i.step s.step) := by
  have answered : i.step s.step = (i.after (s.query.answer i.toField), s.query.answer i.toField) :=
    rfl
  rw [answered, s.answer_query]
  by_cases operand : ∃ n, s.operand = .int n
  · obtain ⟨n, operand⟩ := operand
    have sum : i.toField.combine s.op s.operand = Field.tryFrom k (.int (s.op.onIntegers m n)) := by
      rw [operand, Field.combine_int count, ← kind]
      rfl
    rw [sum, Field.tryFrom_int hk.declared hk.whole, hk.overflow]
    split
    · next range =>
      have taken : i.after (.ok (.field k (.int (s.op.onIntegers m n)))) =
          .ofField ⟨k, .int (s.op.onIntegers m n)⟩ := by
        simp [after, kind]
      exact taken ▸ Shifted.moved operand range
    · next range => exact .outside operand range
  · have refused : i.toField.combine s.op s.operand =
        .error (.type (.operands s.op.symbol name s.operand.typeName)) := by
      rw [Field.combine_of_not_int _ _ (not_exists.mp operand),
        ← Kind.typeName_of_declaration? hk.declared, ← kind]
      rfl
    rw [refused]
    exact .noInteger (not_exists.mp operand)

end

/-! ## Runs of shifts -/

/-- The shifts of a run that succeed. -/
def succeeded (i : Instance) (shifts : List Shift) : List Shift :=
  ((shifts.zip (i.run (shifts.map Shift.step))).filter fun x => x.2.1.isOk).map Prod.fst

theorem succeeded_cons (i : Instance) (s : Shift) (rest : List Shift) :
    i.succeeded (s :: rest) =
      if (i.step s.step).2.isOk then s :: (i.step s.step).1.succeeded rest
      else (i.step s.step).1.succeeded rest := by
  unfold succeeded
  rw [List.map_cons, run, List.zip_cons_cons]
  split_ifs with ok
  · rw [List.filter_cons_of_pos (by simpa using ok), List.map_cons]
  · rw [List.filter_cons_of_neg (by simpa using ok)]

/-- What has become of a field `start` that wraps the number `m`, when some shifts have succeeded :
it wraps the number `total`. -/
structure AfterShifts (bound : Int) (start : Instance) (m : Int) (done : List Shift)
    (i : Instance) (total : Int) : Prop where
  count : i.value.integer? = some total
  sum : total = m + (done.map Shift.amount).sum
  untouched : done = [] → i = start
  moved : done ≠ [] → i = .ofField ⟨start.kind, .int total⟩ ∧ 0 ≤ total ∧ total ≤ bound

section

variable {k : Kind} {name : String} {max : Value} {bound : Int}

theorem AfterShifts.kind {start i : Instance} {m total : Int} {done : List Shift}
    (h : AfterShifts bound start m done i total) : i.kind = start.kind := by
  by_cases none : done = []
  · rw [h.untouched none]
  · rw [(h.moved none).1]
    rfl

/-- A shift that succeeds puts the number into the range and is added to those after it. -/
theorem AfterShifts.cons {start i : Instance} {m n total : Int} {s : Shift} {done : List Shift}
    (kind : start.kind = k) (operand : s.operand = .int n)
    (range : 0 ≤ s.op.onIntegers m n ∧ s.op.onIntegers m n ≤ bound)
    (h : AfterShifts bound (.ofField ⟨k, .int (s.op.onIntegers m n)⟩) (s.op.onIntegers m n) done i
      total) : AfterShifts bound start m (s :: done) i total where
  count := h.count
  sum := by
    rw [h.sum, Shift.amount_of_int operand, List.map_cons, List.sum_cons, Int.add_assoc]
  untouched := nofun
  moved _ := by
    by_cases none : done = []
    · subst none
      have same : total = s.op.onIntegers m n := by simpa using h.sum
      rw [h.untouched rfl, same, kind]
      exact ⟨rfl, range⟩
    · obtain ⟨taken, inRange⟩ := h.moved none
      exact ⟨kind ▸ taken, inRange⟩

/-- The shifts of a run that succeed add up, and the first of them brings the number into the range
of the kind. -/
theorem afterShifts_final (hk : k.HasBound name max bound) (shifts : List Shift) {i : Instance}
    (kind : i.kind = k) {m : Int} (count : i.value.integer? = some m) :
    ∃ total, AfterShifts bound i m (i.succeeded shifts) (i.final (shifts.map Shift.step))
      total := by
  induction shifts generalizing i m with
  | nil => exact ⟨m, count, by simp [succeeded], fun _ => rfl, fun some => absurd rfl some⟩
  | cons s rest ih =>
    have final : i.final ((s :: rest).map Shift.step) =
        (i.step s.step).1.final (rest.map Shift.step) := rfl
    rw [final, succeeded_cons]
    have ended := shifted_step hk kind count s
    generalize i.step s.step = r at ended
    cases ended with
    | moved operand range =>
      obtain ⟨total, after⟩ := ih (i := .ofField ⟨k, .int _⟩) rfl rfl
      exact ⟨total, after.cons kind operand range⟩
    | outside operand range => exact ih kind count
    | noInteger operand => exact ih kind count

/-- After any run of shifts, a field that wrapped a whole number, in the range of its kind or not,
wraps the sum of this number and the amounts of the shifts that have succeeded; if there are any, it
wraps it as an integer and in the range. The next shift succeeds exactly if its operand is an
integer and the sum is in the range, with a field of the very same kind, and else fails for the type
of the operand or for the range and leaves the field as it is. What is added to a field in its range
can be taken away again. -/
theorem exists_count_of_shifts (hk : k.HasBound name max bound) {i : Instance} (kind : i.kind = k)
    {m : Int} (count : i.value.integer? = some m) (shifts : List Shift) :
    (∃ j total, j = i.final (shifts.map Shift.step) ∧
      AfterShifts bound i m (i.succeeded shifts) j total ∧
      ∀ s : Shift, Shifted k name max bound j total s (j.step s.step) ∧
        ((∃ answer, (j.step s.step).2 = .ok answer) ↔ ∃ n, s.operand = .int n ∧
          0 ≤ s.op.onIntegers total n ∧ s.op.onIntegers total n ≤ bound)) ∧
    ∀ (f g : Field) (x : Value) (n : Int), f.kind = k → f.value.integer? = some n → 0 ≤ n →
      n ≤ bound → f.combine .add x = .ok g →
        ∃ back, g.combine .sub x = .ok back ∧ back.same f = true := by
  constructor
  · obtain ⟨total, after⟩ := afterShifts_final hk shifts kind count
    refine ⟨_, total, rfl, after, fun s => ?_⟩
    have ended := shifted_step hk (after.kind.trans kind) after.count s
    exact ⟨ended, ended.exists_ok_iff⟩
  · intro f g x n kind count lower upper sum
    exact Field.exists_combine_sub hk kind count lower upper sum

/-- Shifts of an hour that was put in unchecked. Only the third and the fifth one succeed. -/
def unevenShifts : List Shift :=
  [⟨.sub, .int 3⟩, ⟨.add, .bool true⟩, ⟨.sub, .int 10⟩, ⟨.add, .int 5⟩, ⟨.add, .int 4⟩,
    ⟨.sub, .str "1"⟩]

/-- The hour thirty is out of range until ten hours are taken away, and ends as the last hour, to
which nothing can be added. -/
theorem count_of_unevenShifts :
    ∃ i, i = ofField (Field.unchecked (.standard .hour) (.int 30)) ∧
      i.succeeded unevenShifts = [⟨.sub, .int 10⟩, ⟨.add, .int 4⟩] ∧
      i.final (unevenShifts.map Shift.step) = ofField ⟨.standard .hour, .int 24⟩ ∧
      ¬∃ answer, ((i.final (unevenShifts.map Shift.step)).step (Shift.step ⟨.add, .int 1⟩)).2 =
        .ok answer := by
  have hour : Kind.HasBound (.standard .hour) "Hour" (.int 24) 24 := ⟨rfl, rfl, by decide⟩
  have succeeded : (ofField (Field.unchecked (.standard .hour) (.int 30))).succeeded unevenShifts =
      [⟨.sub, .int 10⟩, ⟨.add, .int 4⟩] := rfl
  obtain ⟨⟨j, total, rfl, after, next⟩, -⟩ := exists_count_of_shifts hour
    (i := ofField (Field.unchecked (.standard .hour) (.int 30))) rfl rfl unevenShifts
  rw [succeeded] at after
  obtain rfl : total = 24 := after.sum
  refine ⟨_, rfl, succeeded, (after.moved nofun).1, fun more => ?_⟩
  obtain ⟨n, one, -, upper⟩ := (next ⟨.add, .int 1⟩).2.mp more
  cases one
  exact absurd upper (by decide)

end

end Instance

end CivilTime
