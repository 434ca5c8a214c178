import CivilTime.Proofs.Sessions

/-!
# Changes of different parts

A change adds an amount to one part of a date-time or takes it away (`Change`). Whether it succeeds
is decided by the value of this part, and by the check of the kinds of all fields that comes after
the sum. That check has the same verdict before and after every change, since a sum is a field of
the kind it was made from (`DateTime.requireKinds_after`). So a change neither looks at the values
of the other parts nor touches them (`DateTime.bump_eq`, `DateTime.part_after`).

A run of changes of the date-time in a slot falls apart into six runs, one for each part, on the
values of the parts alone (`DateTime.part_foldl_after`, `Session.failuresOf_run`). Hence the changes
of different parts may be interleaved in any way (`Session.run_changes_congr`).
-/

namespace CivilTime

/-- An amount that is added to one part of a date-time, or taken away from it. -/
structure Change where
  part : Part
  op : Operation
  amount : Value

/-- The cause of a failure, none where an attempt succeeds. -/
def Attempt.failure? {α : Type} : Attempt α → Option Failure
  | .ok _ => none
  | .error cause => some cause

theorem Attempt.failure?_map {α β : Type} (f : α → β) (x : Attempt α) :
    failure? (x.map f) = failure? x := by
  cases x <;> rfl

namespace DateTime

/-! ## The check of the kinds -/

/-- Refuses a kind that is not the one of a unit. -/
def requireKind (p : Part) (unit : CalendarUnit) (k : Kind) : Attempt Unit :=
  if k.same (.standard unit) then .ok ()
  else .error (.type (.wrongKind p.name unit.name k.typeName))

/-- Refuses a date-time with a field that is not of the kind of its unit. -/
def requireKinds (dt : DateTime) : Attempt Unit := do
  requireKind .month .month dt.month.kind
  requireKind .day .day dt.day.kind
  requireKind .hour .hour dt.hour.kind
  requireKind .minute .minute dt.minute.kind
  requireKind .second .second dt.second.kind

theorem requireUnit_toValue (p : Part) (unit : CalendarUnit) (f : Field) :
    requireUnit p unit f.toValue = requireKind p unit f.kind >>= fun _ => .ok f := by
  simp only [requireUnit, Field.ofValue?_toValue, requireKind]
  split_ifs <;> rfl

/-- The parts of a date-time make it again, unless a kind is wrong. -/
theorem ofParts_part (dt : DateTime) : ofParts dt.part = dt.requireKinds >>= fun _ => .ok dt := by
  simp only [ofParts, part, requireUnit_toValue, requireKinds, bind_assoc, Attempt.ok_bind]
  rfl

/-! ## One part -/

/-- A date-time with another value in the place of one part. Only a field takes the place of one. -/
def withPart (dt : DateTime) (p : Part) (v : Value) : DateTime :=
  match p, Field.ofValue? v with
  | .year, _ => { dt with year := v }
  | .month, some f => { dt with month := f }
  | .day, some f => { dt with day := f }
  | .hour, some f => { dt with hour := f }
  | .minute, some f => { dt with minute := f }
  | .second, some f => { dt with second := f }
  | _, none => dt

/-- Date-times with the same parts are the same. -/
theorem eq_of_part_eq {a b : DateTime} (h : ∀ p, a.part p = b.part p) : a = b := by
  obtain ⟨year, month, day, hour, minute, second⟩ := Part.forall_iff.mp h
  have field : ∀ {f g : Field}, f.toValue = g.toValue → f = g := fun {f g} same => by
    simpa using congrArg Field.ofValue? same
  cases a
  cases b
  simp_all only [part]
  simp [field month, field day, field hour, field minute, field second]

/-- The sum or difference of a field is a field of the same kind. -/
theorem exists_field_of_combine {op : Operation} {f : Field} {amount v : Value}
    (h : f.toValue.combine op amount = .ok v) : ∃ g : Field, v = g.toValue ∧ g.kind = f.kind := by
  rw [Value.combine_toValue] at h
  cases sum : f.combine op amount with
  | error e =>
    rw [sum] at h
    cases h
  | ok g =>
    rw [sum] at h
    obtain ⟨w, hw⟩ := Field.exists_tryFrom_of_combine sum
    exact ⟨g, (Except.ok.inj h).symm, Field.kind_of_tryFrom hw⟩

/-- A sum or difference takes the place of the part it was made from, and no kind changes. -/
theorem part_withPart_of_combine {dt : DateTime} {p : Part} {op : Operation} {amount v : Value}
    (h : (dt.part p).combine op amount = .ok v) :
    (dt.withPart p v).part = (fun q => if q = p then v else dt.part q) ∧
      (dt.withPart p v).requireKinds = dt.requireKinds := by
  cases p
  case year =>
    refine ⟨funext fun q => ?_, rfl⟩
    cases q <;> rfl
  all_goals
    obtain ⟨g, rfl, hg⟩ := exists_field_of_combine h
    refine ⟨funext fun q => ?_, by simp [withPart, requireKinds, hg]⟩
    cases q <;> rfl

end DateTime

/-! ## One change -/

namespace Change

/-- What a change makes of the value of its part, where the check of the kinds has a verdict. -/
def result (kinds : Attempt Unit) (v : Value) (c : Change) : Attempt Value := do
  let w ← v.combine c.op c.amount
  kinds
  return w

/-- The value of a part after a change of it. A change that fails leaves the value as it was. -/
def after (kinds : Attempt Unit) (v : Value) (c : Change) : Value :=
  match c.result kinds v with
  | .ok w => w
  | .error _ => v

/-- The failures of changes of one part, none where a change succeeds. -/
def failures (kinds : Attempt Unit) : Value → List Change → List (Option Failure)
  | _, [] => []
  | v, c :: rest => Attempt.failure? (c.result kinds v) :: failures kinds (c.after kinds v) rest

theorem combine_of_result {kinds : Attempt Unit} {v w : Value} {c : Change}
    (h : c.result kinds v = .ok w) : v.combine c.op c.amount = .ok w := by
  obtain ⟨sum, hsum, h⟩ := Attempt.bind_eq_ok_iff.mp h
  obtain ⟨_, -, h⟩ := Attempt.bind_eq_ok_iff.mp h
  exact hsum.trans h

end Change

namespace DateTime

variable (dt : DateTime) (c : Change)

/-- A change is made of the value of its part, under a check that looks at the kinds alone. -/
theorem bump_eq : dt.bump c.part.name c.op c.amount =
    (c.result dt.requireKinds (dt.part c.part)).map (dt.withPart c.part) := by
  have bumped : dt.bump c.part.name c.op c.amount =
      (dt.part c.part).combine c.op c.amount >>= fun v => dt.replace [(c.part.name, v)] := by
    simp only [bump, Part.ofName?_name]
  rw [bumped, Change.result]
  cases sum : (dt.part c.part).combine c.op c.amount with
  | error e => rfl
  | ok v =>
    obtain ⟨parts, kinds⟩ := part_withPart_of_combine sum
    have replaced : dt.replace [(c.part.name, v)] =
        ofParts fun q => if q = c.part then v else dt.part q := by
      simp [replace, setAll, setNamed]
    rw [Attempt.ok_bind, replaced, ← parts, ofParts_part, kinds]
    cases dt.requireKinds <;> rfl

/-- A date-time after a change, the same one if the change fails. -/
def after : DateTime :=
  match dt.bump c.part.name c.op c.amount with
  | .ok result => result
  | .error _ => dt

/-- A change changes no part but its own. -/
theorem part_after (q : Part) : (dt.after c).part q =
    if q = c.part then c.after dt.requireKinds (dt.part q) else dt.part q := by
  rw [after, bump_eq]
  cases result : c.result dt.requireKinds (dt.part c.part) with
  | error e =>
    split_ifs with own
    · simp [own, Change.after, result, Except.map]
    · rfl
  | ok v =>
    obtain ⟨parts, -⟩ := part_withPart_of_combine (Change.combine_of_result result)
    simp only [Except.map, parts]
    split_ifs with own
    · rw [own, Change.after, result]
    · rfl

theorem requireKinds_after : (dt.after c).requireKinds = dt.requireKinds := by
  rw [after, bump_eq]
  cases result : c.result dt.requireKinds (dt.part c.part) with
  | error e => rfl
  | ok v => exact (part_withPart_of_combine (Change.combine_of_result result)).2

/-! ## Runs of changes -/

/-- A run of changes leaves in every part what the changes of this part leave in it. -/
theorem part_foldl_after (cs : List Change) (p : Part) : (cs.foldl after dt).part p =
    (cs.filter fun c => c.part = p).foldl (Change.after dt.requireKinds) (dt.part p) := by
  induction cs generalizing dt with
  | nil => rfl
  | cons c rest ih =>
    rw [List.foldl_cons, ih, requireKinds_after, part_after]
    by_cases own : p = c.part
    · rw [if_pos own, List.filter_cons_of_pos (by simp [own]), List.foldl_cons]
    · rw [if_neg own, List.filter_cons_of_neg (by simpa using Ne.symm own)]

end DateTime

/-- The step that makes a change of the date-time in a slot. -/
def Change.step (slot : String) (c : Change) : Session.Step :=
  ⟨.derive (.bump slot c.part.name c.op (.ok c.amount)), some slot⟩

namespace Session

/-- The failures of the changes of one part, in their order, among the answers of a run of
changes. There is none where a change succeeds. -/
def failuresOf (p : Part) (cs : List Change) (answers : List (Traced Answer)) :
    List (Option Failure) :=
  ((cs.zip answers).filter fun x => x.1.part = p).map fun x => Attempt.failure? x.2.outcome

theorem failuresOf_cons (p : Part) (c : Change) (cs : List Change) (x : Traced Answer)
    (answers : List (Traced Answer)) : failuresOf p (c :: cs) (x :: answers) =
      if c.part = p then Attempt.failure? x.outcome :: failuresOf p cs answers
      else failuresOf p cs answers := by
  unfold failuresOf
  rw [List.zip_cons_cons]
  split_ifs with own
  · rw [List.filter_cons_of_pos (by simpa using own), List.map_cons]
  · rw [List.filter_cons_of_neg (by simpa using own)]

section

variable {slots : Slots} {slot : String} {dt : DateTime}

/-- A change is answered with the date-time it makes, or with its failure, and leaves no trace. -/
theorem step_change (h : lookup slot slots = some (.dateTime dt)) (c : Change) :
    (step slots (c.step slot)).2 =
      ⟨[], [], (dt.bump c.part.name c.op c.amount).map Answer.dateTime⟩ := by
  have found : slots.get slot = .ok (.dateTime dt) := by
    rw [Slots.get, h]
  have known : DateTime.requireMember c.part.name = .ok () := by
    rw [DateTime.requireMember, Part.ofName?_name]
  have bumped : (Answer.dateTime dt).bump c.part.name c.op (.ok c.amount) =
      dt.bump c.part.name c.op c.amount := by
    rw [Answer.bump, known]
    rfl
  have derived : (Derivation.bump slot c.part.name c.op (.ok c.amount)).result slots =
      Traced.ofAttempt (dt.bump c.part.name c.op c.amount) := by
    rw [Derivation.result, found, ← bumped]
    rfl
  have answer : (step slots (c.step slot)).2 =
      Traced.ofAttempt (dt.bump c.part.name c.op c.amount) >>= fun d => pure (.dateTime d) := by
    rw [← derived]
    rfl
  rw [answer]
  cases dt.bump c.part.name c.op c.amount <;> rfl

theorem lookup_step_change (h : lookup slot slots = some (.dateTime dt)) (c : Change) :
    lookup slot (step slots (c.step slot)).1 = some (.dateTime (dt.after c)) := by
  have slotsAfter : (step slots (c.step slot)).1 =
      slotsAfter slots (some slot) (step slots (c.step slot)).2.outcome := rfl
  rw [slotsAfter, step_change h, DateTime.after]
  cases dt.bump c.part.name c.op c.amount with
  | error e => exact h
  | ok result =>
    show lookup slot (insertEntry slots slot (.dateTime result)) = _
    rw [lookup_insertEntry, if_pos rfl]

/-- After a run of changes the slot holds the date-time they make, one after the other. -/
theorem lookup_final_changes (h : lookup slot slots = some (.dateTime dt)) (cs : List Change) :
    lookup slot (final slots (cs.map (Change.step slot))) =
      some (.dateTime (cs.foldl DateTime.after dt)) := by
  induction cs generalizing slots dt with
  | nil => exact h
  | cons c rest ih => exact ih (lookup_step_change h c)

/-- The failures of the changes of one part are those of the changes of its value. -/
theorem failuresOf_run (h : lookup slot slots = some (.dateTime dt)) (cs : List Change) (p : Part) :
    failuresOf p cs (run slots (cs.map (Change.step slot))) =
      Change.failures dt.requireKinds (dt.part p) (cs.filter fun c => c.part = p) := by
  induction cs generalizing slots dt with
  | nil => rfl
  | cons c rest ih =>
    have first : Attempt.failure? (step slots (c.step slot)).2.outcome =
        Attempt.failure? (c.result dt.requireKinds (dt.part c.part)) := by
      rw [step_change h, Attempt.failure?_map, DateTime.bump_eq, Attempt.failure?_map]
    have later := ih (lookup_step_change h c)
    rw [DateTime.requireKinds_after, DateTime.part_after] at later
    rw [List.map_cons, run, failuresOf_cons, later, first]
    by_cases own : c.part = p
    · subst own
      rw [if_pos rfl, if_pos rfl, List.filter_cons_of_pos (by simp), Change.failures]
    · rw [if_neg own, if_neg (Ne.symm own), List.filter_cons_of_neg (by simpa using own)]

/-! ## Interleavings -/

/-- Two runs of changes of one date-time that hold the same changes of each part in the same order,
however those of different parts are interleaved, leave the same date-time in the slot, and the
changes of each part have the same failures. A change that fails leaves all slots as they were, and
one that succeeds changes no part but its own. -/
theorem run_changes_congr {slots' : Slots} (h : lookup slot slots = some (.dateTime dt))
    (h' : lookup slot slots' = some (.dateTime dt)) {cs ds : List Change}
    (interleaved : ∀ p, (cs.filter fun c => c.part = p) = ds.filter fun c => c.part = p) :
    (∃ last, lookup slot (final slots (cs.map (Change.step slot))) = some (.dateTime last) ∧
      lookup slot (final slots' (ds.map (Change.step slot))) = some (.dateTime last)) ∧
    (∀ p, failuresOf p cs (run slots (cs.map (Change.step slot))) =
      failuresOf p ds (run slots' (ds.map (Change.step slot)))) ∧
    ∀ c : Change,
      (∀ cause, (step slots (c.step slot)).2.outcome = .error cause →
        (step slots (c.step slot)).1 = slots) ∧
      ∃ next, lookup slot (step slots (c.step slot)).1 = some (.dateTime next) ∧
        ∀ q, q ≠ c.part → next.part q = dt.part q := by
  refine ⟨⟨cs.foldl DateTime.after dt, lookup_final_changes h cs, ?_⟩, fun p => ?_, fun c => ?_⟩
  · have last : cs.foldl DateTime.after dt = ds.foldl DateTime.after dt :=
      DateTime.eq_of_part_eq fun p => by
        rw [DateTime.part_foldl_after, DateTime.part_foldl_after, interleaved]
    rw [last]
    exact lookup_final_changes h' ds
  · rw [failuresOf_run h, failuresOf_run h', interleaved]
  · refine ⟨fun cause failed => ?_, _, lookup_step_change h c, fun q other => ?_⟩
    · show slotsAfter slots (some slot) (step slots (c.step slot)).2.outcome = slots
      rw [failed]
      rfl
    · rw [DateTime.part_after, if_neg other]

end

/-- The last but one of the stored months and days. -/
def beforeTheLast : DateTime := DateTime.ofCounts (DateTime.countsOf 2024 11 31 0 0 0)

/-- Changes of the month, of the day and of the year by turns. -/
def byTurns : List Change :=
  [⟨.month, .add, .int 1⟩, ⟨.day, .sub, .int 32⟩, ⟨.year, .add, .str "x"⟩, ⟨.month, .add, .int 1⟩,
    ⟨.day, .add, .int 1⟩, ⟨.year, .add, .bool true⟩, ⟨.month, .sub, .int 5⟩]

/-- The same changes, part after part. -/
def partAfterPart : List Change :=
  [⟨.year, .add, .str "x"⟩, ⟨.year, .add, .bool true⟩, ⟨.month, .add, .int 1⟩,
    ⟨.month, .add, .int 1⟩, ⟨.month, .sub, .int 5⟩, ⟨.day, .sub, .int 32⟩, ⟨.day, .add, .int 1⟩]

/-- Three of seven changes fail, and it is the same three in either order. -/
theorem run_partAfterPart :
    (∀ p, (byTurns.filter fun c => c.part = p) = partAfterPart.filter fun c => c.part = p) ∧
      lookup "a" (final [("a", .dateTime beforeTheLast)] (partAfterPart.map (Change.step "a"))) =
        some (.dateTime (DateTime.ofCounts (DateTime.countsOf 2025 7 32 0 0 0))) ∧
      failuresOf .month partAfterPart
          (run [("a", .dateTime beforeTheLast)] (partAfterPart.map (Change.step "a"))) =
        [none, some (.dateTime (.overflow (.str "Month") (.int 12))), none] := by
  have interleaved : ∀ p,
      (byTurns.filter fun c => c.part = p) = partAfterPart.filter fun c => c.part = p := by
    intro p
    cases p <;> rfl
  have start : lookup "a" [("a", Answer.dateTime beforeTheLast)] =
      some (.dateTime beforeTheLast) := rfl
  obtain ⟨⟨last, first, second⟩, failures, -⟩ := run_changes_congr start start interleaved
  refine ⟨interleaved, second.trans (first.symm.trans rfl), (failures .month).symm.trans rfl⟩

end Session

end CivilTime
