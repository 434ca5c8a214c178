import CivilTime.Session
import CivilTime.Proofs.Derivations

/-!
# Runs of sessions

A session makes its date-times by derivations, from what it is given and from what it has in its
slots. So a property that every checked field has holds of the fields of all date-times in its
slots, step after step (`Slots.EachField`, `Session.eachField_step`), and of all its answers
(`Session.eachField_of_mem_run`), as long as the finished fields it is given have it.

A run that is given checked fields only has answers in the stored ranges. Of these, the ones that
can be written on the wire with a year of four digits are read back, except for the last month and
the last day (`Session.exists_toWire_of_mem_run`), which some ways lead to : numbers and sums may be
as large as the ranges allow, a text may not.
-/

namespace CivilTime

namespace Traced

variable {α β : Type}

/-- A sequence of two succeeds if both do. -/
theorem outcome_bind_eq_ok_iff {x : Traced α} {f : α → Traced β} {b : β} :
    (x >>= f).outcome = .ok b ↔ ∃ a, x.outcome = .ok a ∧ (f a).outcome = .ok b := by
  obtain ⟨printed, log, outcome⟩ := x
  cases outcome with
  | ok a => simp [bind_ok]
  | error e => simp [bind_error]

end Traced

/-! ## Changing answers -/

namespace Answer

/-- No member of an answer can be assigned. -/
theorem assign_ne_ok (a : Answer) (name : String) (v : Value) (b : Answer) :
    a.assign name v ≠ .ok b := by
  cases a with
  | dateTime dt => exact nofun
  | finding f =>
    unfold assign Finding.assign
    split_ifs <;> exact nofun

/-- No member of an answer can be deleted. -/
theorem delete_ne_ok (a : Answer) (name : String) (b : Answer) : a.delete name ≠ .ok b := by
  cases a with
  | dateTime dt => exact nofun
  | finding f =>
    unfold delete Finding.delete
    split_ifs <;> exact nofun

/-- Only a date-time has parts to replace. -/
theorem exists_of_replace {a : Answer} {named : List (String × Value)} {dt : DateTime}
    (h : a.replace named = .ok dt) :
    ∃ base, a = .dateTime base ∧ base.replace named = .ok dt := by
  cases a with
  | dateTime base => exact ⟨base, rfl, h⟩
  | finding f => cases h

/-- Only a date-time has parts to change by an amount. -/
theorem exists_of_bump {a : Answer} {name : String} {op : Operation} {amount : Attempt Value}
    {dt : DateTime} (h : a.bump name op amount = .ok dt) :
    ∃ base v, a = .dateTime base ∧ amount = .ok v ∧ base.bump name op v = .ok dt := by
  cases a with
  | dateTime base =>
    obtain ⟨_, -, h⟩ := Attempt.bind_eq_ok_iff.mp h
    obtain ⟨v, hv, h⟩ := Attempt.bind_eq_ok_iff.mp h
    exact ⟨base, v, rfl, hv, h⟩
  | finding f =>
    obtain ⟨_, -, h⟩ := Attempt.bind_eq_ok_iff.mp h
    obtain ⟨_, -, h⟩ := Attempt.bind_eq_ok_iff.mp h
    obtain ⟨_, -, h⟩ := Attempt.bind_eq_ok_iff.mp h
    cases h

end Answer

/-! ## Slots and steps -/

/-- The values that a derivation is given as finished parts. -/
def Derivation.finished : Derivation → List Value
  | .new (.ok named) => named.map Prod.snd
  | .replace _ (.ok named) => named.map Prod.snd
  | _ => []

/-- The values that a step is given as finished parts. -/
def Session.Step.finished (s : Session.Step) : List Value :=
  match s.action with
  | .derive how => how.finished
  | _ => []

/-- Whether the fields of all date-times in slots have a property of their units. -/
def Slots.EachField (Q : CalendarUnit → Field → Prop) (slots : Slots) : Prop :=
  ∀ {name : String} {dt : DateTime}, lookup name slots = some (.dateTime dt) → dt.EachField Q

theorem Slots.lookup_of_get {slots : Slots} {name : String} {a : Answer}
    (h : slots.get name = .ok a) : lookup name slots = some a := by
  unfold get at h
  split at h
  · next b hb =>
    rw [hb, Except.ok.inj h]
  · cases h

section

variable {Q : CalendarUnit → Field → Prop} {slots : Slots}

theorem Slots.eachField_nil : Slots.EachField Q [] := by
  intro name dt h
  rw [lookup_nil] at h
  cases h

/-- A derivation keeps what its finished parts and the slots have. -/
theorem Derivation.eachField_of_result (hQ : Certified Q) (hslots : slots.EachField Q)
    {how : Derivation} (given : ∀ v ∈ how.finished, ∀ p, v.Suits Q p) {dt : DateTime}
    (h : (how.result slots).outcome = .ok dt) : dt.EachField Q := by
  cases how with
  | parse text =>
    obtain ⟨v, -, h⟩ := Traced.outcome_bind_eq_ok_iff.mp h
    exact DateTime.eachField_of_parse hQ h
  | tryNew numbers =>
    obtain ⟨_, -, h⟩ := Traced.outcome_bind_eq_ok_iff.mp h
    exact DateTime.eachField_of_tryNewOf hQ h
  | new named =>
    obtain ⟨entries, hentries, h⟩ := Traced.outcome_bind_eq_ok_iff.mp h
    obtain rfl : named = .ok entries := hentries
    exact DateTime.eachField_of_new hQ (fun e he => given e.2 (List.mem_map_of_mem he)) h
  | ofSource source =>
    obtain ⟨s, -, h⟩ := Traced.outcome_bind_eq_ok_iff.mp h
    exact DateTime.eachField_of_ofSource hQ h
  | replace slot named =>
    obtain ⟨a, ha, h⟩ := Traced.outcome_bind_eq_ok_iff.mp h
    obtain ⟨entries, hentries, h⟩ := Traced.outcome_bind_eq_ok_iff.mp h
    obtain rfl : named = .ok entries := hentries
    obtain ⟨base, rfl, h⟩ := Answer.exists_of_replace h
    exact DateTime.eachField_of_replace (fun e he => given e.2 (List.mem_map_of_mem he))
      (hslots (Slots.lookup_of_get ha)) h
  | bump slot name op amount =>
    obtain ⟨a, ha, h⟩ := Traced.outcome_bind_eq_ok_iff.mp h
    obtain ⟨base, v, rfl, -, h⟩ := Answer.exists_of_bump h
    exact DateTime.eachField_of_bump hQ (hslots (Slots.lookup_of_get ha)) h
  | reparse slot =>
    obtain ⟨a, -, h⟩ := Traced.outcome_bind_eq_ok_iff.mp h
    obtain ⟨text, -, h⟩ := Traced.outcome_bind_eq_ok_iff.mp h
    exact DateTime.eachField_of_ofWire hQ ((DateTime.outcome_parseText text).symm.trans h)

namespace Session

/-- A date-time can only be the answer of a derivation. -/
theorem eachField_of_answer (hQ : Certified Q) (hslots : slots.EachField Q) {s : Step}
    (given : ∀ v ∈ s.finished, ∀ p, v.Suits Q p) {dt : DateTime}
    (h : (step slots s).2.outcome = .ok (.dateTime dt)) : dt.EachField Q := by
  obtain ⟨action, to?⟩ := s
  cases action with
  | derive how =>
    obtain ⟨made, hmade, h⟩ := Traced.outcome_bind_eq_ok_iff.mp h
    obtain rfl := Answer.dateTime.inj (Except.ok.inj h)
    exact Derivation.eachField_of_result hQ hslots given hmade
  | assign slot name value =>
    obtain ⟨a, -, h⟩ := Traced.outcome_bind_eq_ok_iff.mp h
    obtain ⟨v, -, h⟩ := Traced.outcome_bind_eq_ok_iff.mp h
    exact absurd h (a.assign_ne_ok name v _)
  | delete slot name =>
    obtain ⟨a, -, h⟩ := Traced.outcome_bind_eq_ok_iff.mp h
    exact absurd h (a.delete_ne_ok name _)
  | ask question =>
    obtain ⟨_, -, h⟩ := Traced.outcome_bind_eq_ok_iff.mp h
    cases h

/-- What a step puts into a slot is its answer. -/
theorem lookup_step {s : Step} {name : String} {a : Answer}
    (h : lookup name (step slots s).1 = some a) :
    (step slots s).2.outcome = .ok a ∨ lookup name slots = some a := by
  simp only [step, slotsAfter] at h ⊢
  split at h
  · next target b _ hb =>
    rw [lookup_insertEntry] at h
    split_ifs at h
    · exact .inl (hb.trans (congrArg _ (Option.some.inj h)))
    · exact .inr h
  · exact .inr h

theorem eachField_step (hQ : Certified Q) (hslots : slots.EachField Q) {s : Step}
    (given : ∀ v ∈ s.finished, ∀ p, v.Suits Q p) : Slots.EachField Q (step slots s).1 := by
  intro name dt h
  rcases lookup_step h with answered | kept
  · exact eachField_of_answer hQ hslots given answered
  · exact hslots kept

/-- Every date-time a run answers with has what all checked fields and the given ones have. -/
theorem eachField_of_mem_run (hQ : Certified Q) {steps : List Step} (hslots : slots.EachField Q)
    (given : ∀ s ∈ steps, ∀ v ∈ s.finished, ∀ p, v.Suits Q p) {x : Traced Answer}
    (hx : x ∈ run slots steps) {dt : DateTime} (h : x.outcome = .ok (.dateTime dt)) :
    dt.EachField Q := by
  induction steps generalizing slots with
  | nil => cases hx
  | cons s rest ih =>
    have first := given s List.mem_cons_self
    rcases List.mem_cons.mp hx with rfl | later
    · exact eachField_of_answer hQ hslots first h
    · exact ih (eachField_step hQ hslots first) (fun t ht => given t (List.mem_cons_of_mem s ht))
        later

end Session

end

/-! ## Runs on checked fields -/

/-- Whether a value, if it is a field, came about by checks alone. -/
def Value.Checked (v : Value) : Prop :=
  ∀ f : Field, Field.ofValue? v = some f → f.Checked

theorem Value.Checked.suits {v : Value} (h : v.Checked) (p : Part) :
    v.Suits (fun u f => f.InRange u) p :=
  fun _ hf hkind => (h _ hf).inRange hkind

namespace DateTime

/-- A date-time with a whole year and fields in their ranges holds six numbers. -/
theorem EachField.exists_holds {dt : DateTime} (h : dt.EachField fun u f => f.InRange u) {y : Int}
    (hy : dt.year.integer? = some y) :
    ∃ c : Part → Int, dt.Holds c ∧ c .year = y ∧ dt.month.value = .int (c .month) ∧
      dt.day.value = .int (c .day) := by
  obtain ⟨month, hmonth, holdsMonth⟩ := h.month.holds
  obtain ⟨day, hday, holdsDay⟩ := h.day.holds
  obtain ⟨hour, -, holdsHour⟩ := h.hour.holds
  obtain ⟨minute, -, holdsMinute⟩ := h.minute.holds
  obtain ⟨second, -, holdsSecond⟩ := h.second.holds
  exact ⟨countsOf y month day hour minute second,
    ⟨hy, holdsMonth, holdsDay, holdsHour, holdsMinute, holdsSecond⟩, rfl, hmonth, hday⟩

end DateTime

namespace Session

/-- Every date-time of a run on checked fields with a year of four digits can be written, and what
is written is read as an equal date-time exactly if its month is not the last of the stored range
and its day is not either. Else the first of these two fields overflows. -/
theorem exists_toWire_of_mem_run {steps : List Step}
    (checked : ∀ s ∈ steps, ∀ v ∈ s.finished, v.Checked) {x : Traced Answer}
    (hx : x ∈ run [] steps) {dt : DateTime} (h : x.outcome = .ok (.dateTime dt)) {y : Int}
    (hy : dt.year.integer? = some y) (lower : 0 ≤ y) (upper : y ≤ 9999) :
    ∃ text, dt.toWire = .ok text ∧
      ((∃ back, (DateTime.parse (.str text)).outcome = .ok back ∧ back.same dt = true) ↔
        dt.month.value ≠ .int 12 ∧ dt.day.value ≠ .int 32) ∧
      (dt.month.value = .int 12 → (DateTime.parse (.str text)).outcome =
        .error (.dateTime (.overflow (.str "Month") (.int 12)))) ∧
      (dt.month.value ≠ .int 12 → dt.day.value = .int 32 →
        (DateTime.parse (.str text)).outcome =
          .error (.dateTime (.overflow (.str "Day") (.int 32)))) := by
  have ranges : dt.EachField fun u f => f.InRange u :=
    eachField_of_mem_run certified_inRange Slots.eachField_nil
      (fun s hs v hv => (checked s hs v hv).suits) hx h
  obtain ⟨c, hc, rfl, month, day⟩ := ranges.exists_holds hy
  rw [month, day]
  simp only [ne_eq, Value.int.injEq]
  exact hc.exists_toWire lower upper

/-- A day that was reached by a sum, of a date-time made of a finished month. -/
theorem readsBack_of_bumped_day :
    ∃ x ∈ run []
        [⟨.derive (.new (.ok
            [("year", .int 1999), ("month", .field (.standard .month) (.int 11))])), some "a"⟩,
          ⟨.derive (.bump "a" "day" .add (.ok (.int 31))), none⟩],
      ∃ dt, x.outcome = .ok (.dateTime dt) ∧ dt.ReadsBack := by
  let made : Step :=
    ⟨.derive (.new (.ok [("year", .int 1999), ("month", .field (.standard .month) (.int 11))])),
      some "a"⟩
  let bumped : Step := ⟨.derive (.bump "a" "day" .add (.ok (.int 31))), none⟩
  let dt := DateTime.ofCounts (DateTime.countsOf 1999 11 31 0 0 0)
  have month : Field.Checked ⟨.standard .month, .int 11⟩ :=
    .converted (Field.tryFrom_standard_of_le (by decide) (by decide))
  have checked : ∀ s ∈ [made, bumped], ∀ v ∈ s.finished, v.Checked := by
    simp [made, bumped, Step.finished, Derivation.finished, month, Value.Checked, Field.ofValue?]
  have hx : (step (step [] made).1 bumped).2 ∈ run [] [made, bumped] :=
    List.mem_cons_of_mem _ (List.mem_singleton_self _)
  have h : (step (step [] made).1 bumped).2.outcome = .ok (.dateTime dt) := rfl
  obtain ⟨text, written, read, -⟩ :=
    exists_toWire_of_mem_run checked hx h (y := 1999) rfl (by decide) (by decide)
  obtain ⟨back, hback, same⟩ := read.mpr (by simp [dt, DateTime.ofCounts, DateTime.countsOf])
  exact ⟨_, hx, dt, h, text, back, written, hback, same⟩

/-- A month of twelve passes the check of numbers and not that of texts, where it would be the
thirteenth. -/
theorem not_readsBack_of_mem_run :
    ¬∀ steps : List Step, (∀ s ∈ steps, ∀ v ∈ s.finished, v.Checked) →
      ∀ x ∈ run [] steps, ∀ dt, x.outcome = .ok (.dateTime dt) →
        ∀ y, dt.year.integer? = some y → 0 ≤ y → y ≤ 9999 → dt.ReadsBack := by
  intro all
  let c := DateTime.countsOf 2024 12 0 0 0 0
  have holds : (DateTime.ofCounts c).Holds c := by
    refine ⟨rfl, ?_, ?_, ?_, ?_, ?_⟩ <;> exact ⟨rfl, rfl, by decide, by decide⟩
  let made : Step :=
    ⟨.derive (.tryNew (.ok [.int 2024, .int 12, .int 0, .int 0, .int 0, .int 0])), none⟩
  have back := all [made] (by simp [made, Step.finished, Derivation.finished]) _
    (List.mem_singleton_self _) (DateTime.ofCounts c) rfl 2024 rfl (by decide) (by decide)
  rw [DateTime.readsBack_iff holds
    (DateTime.length_naturalDigits_of_le (n := c .year) (by decide) (by decide))] at back
  exact absurd back.2.2.1 (by decide)

end Session

end CivilTime
