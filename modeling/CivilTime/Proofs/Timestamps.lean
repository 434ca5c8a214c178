import CivilTime.DateTime.Clock
import CivilTime.Proofs.SixNumbers

/-!
# Date-times of timestamps

A timestamp of the calendar (`Timestamp.IsValid`) has a text of the layout of the wire
(`Timestamp.text`), and there are two ways from it to a date-time : from its numbers, month and day
less one before they are checked, and from its text, where they are checked first. Both give the
date-time of the same numbers (`DateTime.ofSource_of_naive`, `DateTime.outcome_parse_text`), and
writing it gives the text of the timestamp.

The microsecond and the fold get lost, so two timestamps give equal date-times exactly if they agree
to the second. A timestamp in a zone gives none (`DateTime.ofSource_timestamp`).
-/

namespace CivilTime

namespace Timestamp

/-! ## Timestamps of the calendar -/

/-- Whether a year has a leap day. -/
def isLeapYear (year : Int) : Bool :=
  year % 4 = 0 && (year % 100 ≠ 0 || year % 400 = 0)

/-- The number of days of a month, January being the first month. -/
def daysOfMonth (year month : Int) : Int :=
  if month = 2 then if isLeapYear year then 29 else 28
  else if month = 4 ∨ month = 6 ∨ month = 9 ∨ month = 11 then 30
  else 31

/-- Whether a timestamp is a day of the calendar and a time of the day. -/
structure IsValid (t : Timestamp) : Prop where
  year : 1 ≤ t.year ∧ t.year ≤ 9999
  month : 1 ≤ t.month ∧ t.month ≤ 12
  day : 1 ≤ t.day ∧ t.day ≤ daysOfMonth t.year t.month
  hour : 0 ≤ t.hour ∧ t.hour ≤ 23
  minute : 0 ≤ t.minute ∧ t.minute ≤ 59
  second : 0 ≤ t.second ∧ t.second ≤ 59
  microsecond : 0 ≤ t.microsecond ∧ t.microsecond ≤ 999999
  fold : t.fold = 0 ∨ t.fold = 1

theorem daysOfMonth_le (year month : Int) : daysOfMonth year month ≤ 31 := by
  unfold daysOfMonth
  split_ifs <;> decide

/-- A timestamp of the calendar has numbers in the ranges of the wire. -/
theorem IsValid.wireRanges {t : Timestamp} (h : t.IsValid) : DateTime.WireRanges t.part := by
  have days := daysOfMonth_le t.year t.month
  have day := h.day
  have hour := h.hour
  have minute := h.minute
  have second := h.second
  refine ⟨h.month, ?_, ?_, ?_, ?_⟩ <;> simp only [part] <;> omega

/-- The text of a timestamp without a zone, down to the second. -/
def text (t : Timestamp) : String :=
  let digits (width : Nat) (n : Int) : String := String.ofList (Text.zeroPadded width n)
  digits 4 t.year ++ "-" ++ digits 2 t.month ++ "-" ++ digits 2 t.day ++ "T" ++
    digits 2 t.hour ++ ":" ++ digits 2 t.minute ++ ":" ++ digits 2 t.second

end Timestamp

namespace DateTime

/-! ## The two ways -/

/-- A timestamp without a zone gives the date-time of its numbers, month and day less one. -/
theorem ofSource_of_naive {t : Timestamp} (valid : t.IsValid) (naive : t.zone? = none) :
    ofSource (.timestamp t) = .ok (ofCounts (stored t.part)) := by
  have numbers : ofSource (.timestamp t) = tryNew (.int t.year) (.int (t.month - 1))
      (.int (t.day - 1)) (.int t.hour) (.int t.minute) (.int t.second) := by
    simp only [ofSource, Source.requireNaive, Source.zone?, naive]
    rfl
  rw [numbers, ← tryNewOf_of_holds valid.wireRanges.holds]
  simp [tryNewOf, values, Part.all, stored, Timestamp.part, Part.wireOffset]

theorem ofSource_of_aware {t : Timestamp} {zone : Zone} (aware : t.zone? = some zone) :
    ofSource (.timestamp t) = .error (.type (.aware zone.literal)) := by
  simp only [ofSource, Source.requireNaive, Source.zone?, aware]
  rfl

theorem text_eq_spaced (t : Timestamp) :
    t.text = String.ofList (spaced (wireSlices (stored t.part))) := by
  apply String.ext
  simp [Timestamp.text, spaced, wireSlices, stored, Timestamp.part, Part.width]

/-- The numbers of a timestamp lie where a date-time can be read back. -/
theorem stored_part_bounds {t : Timestamp} (valid : t.IsValid) :
    0 ≤ stored t.part .year ∧ stored t.part .year ≤ 9999 ∧ stored t.part .month ≤ 11 ∧
      stored t.part .day ≤ 31 := by
  have year := valid.year
  have month := valid.wireRanges.month
  have day := valid.wireRanges.day
  simp only [stored, Part.wireOffset, Timestamp.part] at *
  omega

/-- The text of a timestamp is read as the date-time of its numbers. -/
theorem outcome_parse_text {t : Timestamp} (valid : t.IsValid) :
    (parse (.str t.text)).outcome = .ok (ofCounts (stored t.part)) := by
  obtain ⟨lower, upper, month, day⟩ := stored_part_bounds valid
  rw [text_eq_spaced, outcome_parse_wireSlices valid.wireRanges.holds,
    reread_of_le lower upper month day]

/-- The date-time of the numbers of a timestamp is written as the text of the timestamp. -/
theorem toWire_stored_part {t : Timestamp} (valid : t.IsValid) :
    (ofCounts (stored t.part)).toWire = .ok t.text := by
  obtain ⟨lower, upper, -, -⟩ := stored_part_bounds valid
  rw [text_eq_spaced]
  exact toWire_of_holds valid.wireRanges.holds (length_naturalDigits_of_le lower upper)

/-- Date-times of timestamps are equal if the timestamps agree to the second. -/
theorem same_stored_part_iff {t other : Timestamp} (valid : t.IsValid) (valid' : other.IsValid) :
    (ofCounts (stored t.part)).same (ofCounts (stored other.part)) = true ↔
      ∀ p, t.part p = other.part p := by
  rw [same_of_holds valid.wireRanges.holds valid'.wireRanges.holds, funext_iff]
  simp only [stored, Int.sub_left_inj]

/-! ## Both ways together -/

/-- A timestamp of the calendar in no zone, whatever its microsecond and its fold, gives a
date-time : the one its text is read as, and written as that text. Two of them give equal
date-times exactly if they agree to the second. A timestamp in a zone, be it of the calendar or not,
gives no date-time, and the failure shows the zone. -/
theorem ofSource_timestamp (t : Timestamp) :
    (t.IsValid → t.zone? = none → ∃ dt, ofSource (.timestamp t) = .ok dt ∧
      (parse (.str t.text)).outcome = .ok dt ∧ dt.toWire = .ok t.text ∧
      ∀ other : Timestamp, other.IsValid → other.zone? = none →
        ∃ dt', ofSource (.timestamp other) = .ok dt' ∧
          (dt.same dt' = true ↔ ∀ p, t.part p = other.part p)) ∧
    ∀ zone, t.zone? = some zone →
      ofSource (.timestamp t) = .error (.type (.aware zone.literal)) := by
  refine ⟨fun valid naive => ?_, fun zone aware => ofSource_of_aware aware⟩
  refine ⟨_, ofSource_of_naive valid naive, outcome_parse_text valid, toWire_stored_part valid,
    fun other valid' naive' => ?_⟩
  exact ⟨_, ofSource_of_naive valid' naive', same_stored_part_iff valid valid'⟩

/-- The last second of a leap day, as it comes about the second time. -/
def endOfLeapDay : Timestamp :=
  ⟨2024, 2, 29, 23, 59, 59, 999999, 1, none⟩

theorem isValid_endOfLeapDay : endOfLeapDay.IsValid := by
  constructor <;> decide

/-- The second of its microsecond and its fold is that of the timestamp without them, and in a zone
it is none. -/
theorem ofSource_endOfLeapDay :
    endOfLeapDay.IsValid ∧ (∃ dt, ofSource (.timestamp endOfLeapDay) = .ok dt ∧
      dt.toWire = .ok "2024-02-29T23:59:59" ∧
      ∃ dt', ofSource (.timestamp { endOfLeapDay with microsecond := 0, fold := 0 }) = .ok dt' ∧
        dt.same dt' = true) ∧
    ofSource (.timestamp { endOfLeapDay with zone? := some .utc }) =
      .error (.type (.aware "datetime.timezone.utc")) := by
  have plain : Timestamp.IsValid { endOfLeapDay with microsecond := 0, fold := 0 } := by
    constructor <;> decide
  obtain ⟨dt, made, -, written, equal⟩ :=
    (ofSource_timestamp endOfLeapDay).1 isValid_endOfLeapDay rfl
  obtain ⟨dt', made', same⟩ := equal _ plain rfl
  refine ⟨isValid_endOfLeapDay, ⟨dt, made, written, dt', made', same.mpr fun p => ?_⟩,
    (ofSource_timestamp _).2 .utc rfl⟩
  cases p <;> rfl

end DateTime

end CivilTime
