import CivilTime.Proofs.Sessions

/-!
# The parts of the date-times of a run

A run that starts with empty slots produces date-times as answers, and keeps some of them in slots
(`Session.Produces`). What is found in a slot has been an answer (`Session.lookup_final`), so it is
enough to know what answers are like.

Whatever a run is given, its date-times have fields of the kinds of their units in all parts but the
year; and if the finished fields it is given came about by checks, all fields it produces hold
integers of the stored ranges (`Session.part_of_produces`).
-/

namespace CivilTime

/-- A value that is taken as a field of a unit is of its kind. -/
theorem Value.suits_kind (v : Value) (p : Part) : v.Suits (fun u f => f.kind = .standard u) p :=
  fun _ _ hkind => hkind

/-- A field of a date-time as the value of its part. -/
theorem DateTime.EachField.exists_part {Q : CalendarUnit → Field → Prop} {dt : DateTime}
    (h : dt.EachField Q) {p : Part} {u : CalendarUnit} (hu : p.unit? = some u) :
    ∃ f, dt.part p = Field.toValue f ∧ Q u f := by
  cases p with
  | year => cases hu
  | month => cases hu; exact ⟨_, rfl, h.month⟩
  | day => cases hu; exact ⟨_, rfl, h.day⟩
  | hour => cases hu; exact ⟨_, rfl, h.hour⟩
  | minute => cases hu; exact ⟨_, rfl, h.minute⟩
  | second => cases hu; exact ⟨_, rfl, h.second⟩

namespace Session

/-! ## What a run produces -/

/-- Whether a run gives a date-time as an answer or keeps it in a slot. -/
def Produces (steps : List Step) (dt : DateTime) : Prop :=
  (∃ x ∈ run [] steps, x.outcome = .ok (.dateTime dt)) ∨
    ∃ name, lookup name (final [] steps) = some (.dateTime dt)

/-- What is found in a slot after a run is an answer of the run or was there before. -/
theorem lookup_final {slots : Slots} {steps : List Step} {name : String} {a : Answer}
    (h : lookup name (final slots steps) = some a) :
    (∃ x ∈ run slots steps, x.outcome = .ok a) ∨ lookup name slots = some a := by
  induction steps generalizing slots with
  | nil => exact .inr h
  | cons s rest ih =>
    rcases ih h with ⟨x, hx, answered⟩ | kept
    · exact .inl ⟨x, List.mem_cons_of_mem _ hx, answered⟩
    · rcases lookup_step kept with answered | before
      · exact .inl ⟨_, List.mem_cons_self, answered⟩
      · exact .inr before

theorem Produces.exists_mem_run {steps : List Step} {dt : DateTime} (h : Produces steps dt) :
    ∃ x ∈ run [] steps, x.outcome = .ok (.dateTime dt) := by
  rcases h with answered | ⟨name, kept⟩
  · exact answered
  · exact (lookup_final kept).resolve_right (by simp)

/-- Every date-time a run produces has what all checked fields and the given ones have. -/
theorem Produces.eachField {Q : CalendarUnit → Field → Prop} (hQ : Certified Q) {steps : List Step}
    (given : ∀ s ∈ steps, ∀ v ∈ s.finished, ∀ p, v.Suits Q p) {dt : DateTime}
    (h : Produces steps dt) : dt.EachField Q := by
  obtain ⟨x, hx, answered⟩ := h.exists_mem_run
  exact eachField_of_mem_run hQ Slots.eachField_nil given hx answered

/-! ## Kinds and ranges -/

/-- Every date-time a run produces has a field of the kind of its unit in every part but the year.
If the finished fields the run was given came about by checks, each of them holds an integer between
zero and the maximum of its unit. -/
theorem part_of_produces {steps : List Step} {dt : DateTime} (h : Produces steps dt) {p : Part}
    {u : CalendarUnit} (hu : p.unit? = some u) :
    (∃ v, dt.part p = .field (.standard u) v) ∧
      ((∀ s ∈ steps, ∀ v ∈ s.finished, v.Checked) →
        ∃ n : Int, dt.part p = .field (.standard u) (.int n) ∧ 0 ≤ n ∧ n ≤ u.max) := by
  constructor
  · have kinds : dt.EachField fun u f => f.kind = .standard u :=
      h.eachField certified_kind fun _ _ v _ => v.suits_kind
    obtain ⟨f, hf, hkind⟩ := kinds.exists_part hu
    exact ⟨f.value, by rw [hf, Field.toValue, hkind]⟩
  · intro checked
    have ranges : dt.EachField fun u f => f.InRange u :=
      h.eachField certified_inRange fun s hs v hv => (checked s hs v hv).suits
    obtain ⟨_, hf, n, rfl, lower, upper⟩ := ranges.exists_part hu
    exact ⟨n, hf, lower, upper⟩

/-- A run that is given the last month, adds up to the last day, tries in vain to put a number in
the place of the month, and is given the last hour. -/
def runOfLasts : List Step :=
  [⟨.derive (.new (.ok [("month", .field (.standard .month) (.int 12))])), some "a"⟩,
    ⟨.derive (.bump "a" "day" .add (.ok (.int 32))), some "a"⟩,
    ⟨.assign "a" "month" (.ok (.int 99)), none⟩,
    ⟨.derive (.replace "a" (.ok [("hour", .field (.standard .hour) (.int 24))])), some "b"⟩]

/-- The last date-time of the run is in the stored ranges. -/
theorem part_of_produces_runOfLasts :
    ∃ dt, Produces runOfLasts dt ∧ dt.same (.ofCounts (DateTime.countsOf 0 12 32 24 0 0)) = true ∧
      (∃ v, dt.part .day = .field (.standard .day) v) ∧
      ∃ n : Int, dt.part .day = .field (.standard .day) (.int n) ∧ 0 ≤ n ∧ n ≤ 32 := by
  let dt := DateTime.ofCounts (DateTime.countsOf 0 12 32 24 0 0)
  have produced : Produces runOfLasts dt := .inr ⟨"b", rfl⟩
  have month : Field.Checked ⟨.standard .month, .int 12⟩ :=
    .converted (Field.tryFrom_standard_of_le (by decide) (by decide))
  have hour : Field.Checked ⟨.standard .hour, .int 24⟩ :=
    .converted (Field.tryFrom_standard_of_le (by decide) (by decide))
  have checked : ∀ s ∈ runOfLasts, ∀ v ∈ s.finished, v.Checked := by
    simp [runOfLasts, Step.finished, Derivation.finished, month, hour, Value.Checked,
      Field.ofValue?]
  obtain ⟨kind, range⟩ := part_of_produces produced (p := .day) rfl
  exact ⟨dt, produced, rfl, kind, range checked⟩

end Session

end CivilTime
