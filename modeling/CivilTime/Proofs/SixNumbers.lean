import CivilTime.Proofs.RoundTrip
import CivilTime.Proofs.SixValues

/-!
# Date-times of six numbers

Six integers make a date-time if each of them lies in the range of its part, and else the first one
that does not decides on the error (`tryNewOf_values`). A year has no range, so the error is always
that of a unit (`exists_outOfRange_of_tryNewOf`).

What is read from a text holds six natural numbers of at most four digits
(`exists_counts_of_ofWire`), and these numbers make it again (`tryNewOf_of_holds`).
-/

namespace CivilTime.DateTime

/-! ## Making -/

/-- Integers as values, in the order of the parts. -/
def values (c : Part → Int) : List Value :=
  Part.all.map fun p => .int (c p)

/-- The error of a number outside the range of its part. The year has no range. -/
def rangeFault? (c : Part → Int) (p : Part) : Option DateTimeError :=
  p.unit?.bind fun u => if 0 ≤ c p ∧ c p ≤ u.max then none else some (outOfRange u)

theorem fault?_int (c : Part → Int) (p : Part) :
    p.fault? (.int (c p)) = (rangeFault? c p).map .dateTime := by
  rw [Part.fault?, rangeFault?]
  cases p.unit? with
  | none => rfl
  | some u =>
    rw [Option.bind_some, Option.bind_some, CalendarUnit.fault?]
    split <;> rfl

/-- Of six integers the first one outside the range of its part decides. -/
theorem tryNewOf_values (c : Part → Int) :
    tryNewOf (values c) = verdict (Part.all.findSome? (rangeFault? c)) (ofCounts c) := by
  have fault : valuesFault? (fun p => .int (c p)) =
      (Part.all.findSome? (rangeFault? c)).map .dateTime := by
    rw [valuesFault?, List.map_findSome?]
    exact congrArg (Part.all.findSome? ·) (funext (fault?_int c))
  rw [values, tryNewOf_eq_refusedBy fun p => .int (c p), fault]
  cases Part.all.findSome? (rangeFault? c) <;> rfl

theorem eq_ofCounts_of_tryNewOf {c : Part → Int} {dt : DateTime}
    (h : tryNewOf (values c) = .ok dt) : dt = ofCounts c := by
  rw [tryNewOf_values, verdict_eq_ok_iff] at h
  exact h.2.symm

theorem exists_outOfRange_of_tryNewOf {c : Part → Int} {cause : Failure}
    (h : tryNewOf (values c) = .error cause) : ∃ u, cause = .dateTime (outOfRange u) := by
  rw [tryNewOf_values, verdict_eq_error_iff] at h
  obtain ⟨e, fault, rfl⟩ := h
  obtain ⟨p, -, failed⟩ := List.exists_of_findSome?_eq_some fault
  obtain ⟨u, -, failed⟩ := Option.bind_eq_some_iff.mp failed
  split at failed
  · cases failed
  · exact ⟨u, by rw [← Option.some.inj failed]⟩

theorem tryNewOf_of_holds {dt : DateTime} {c : Part → Int} (h : dt.Holds c) :
    tryNewOf (values c) = .ok (ofCounts c) := by
  have clean : Part.all.findSome? (rangeFault? c) = none := by
    refine List.findSome?_eq_none_iff.mpr fun p _ => ?_
    cases p with
    | year => rfl
    | month => exact if_pos ⟨h.month.nonneg, h.month.le_max⟩
    | day => exact if_pos ⟨h.day.nonneg, h.day.le_max⟩
    | hour => exact if_pos ⟨h.hour.nonneg, h.hour.le_max⟩
    | minute => exact if_pos ⟨h.minute.nonneg, h.minute.le_max⟩
    | second => exact if_pos ⟨h.second.nonneg, h.second.le_max⟩
  rw [tryNewOf_values, clean]
  rfl

/-- A date-time that was made of short numbers can be shown. -/
theorem literal?_ofCounts {c : Part → Int} (short : ∀ p, Text.tooLong (c p) = false) :
    (ofCounts c).literal? = .ok (ofCounts c).literal := by
  have fits : (ofCounts c).oversized = false := by
    refine List.any_eq_false.mpr fun p _ => ?_
    cases p <;> simp [part, ofCounts, Field.toValue, Value.oversized, short]
  rw [literal?, fits]
  rfl

/-! ## Reading -/

theorem Holds.le_of_year {dt : DateTime} {c : Part → Int} (h : dt.Holds c) (lower : 0 ≤ c .year)
    (upper : c .year ≤ 9999) (p : Part) : 0 ≤ c p ∧ c p ≤ 9999 := by
  by_cases year : p = .year
  · rw [year]
    exact ⟨lower, upper⟩
  · obtain ⟨u, f, -, -, holds⟩ := h.exists_part year
    have bound := Int.le_trans holds.le_max u.max_le
    exact ⟨holds.nonneg, by omega⟩

/-- What is read from a text holds six natural numbers of at most four digits. -/
theorem exists_counts_of_ofWire {text : String} {dt : DateTime} (h : ofWire text = .ok dt) :
    ∃ n : Part → Nat, dt = ofCounts (fun p => n p) ∧ dt.Holds (fun p => n p) ∧
      ∀ p, (n p : Int) ≤ 9999 := by
  obtain ⟨-, -, -, counts⟩ := ofWire_eq_ok_iff.mp h
  obtain ⟨lower, upper, -⟩ := stored_bounds h
  have holds := holds_of_ofWire h
  have bounds := holds.le_of_year lower upper
  generalize stored (wireNumbers text) = c at counts holds bounds
  lift c to Part → Nat using fun p => (bounds p).1
  exact ⟨c, counts, holds, fun p => (bounds p).2⟩

end CivilTime.DateTime
