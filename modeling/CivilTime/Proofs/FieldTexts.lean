import CivilTime.Proofs.Fields

/-!
# Texts of fields

A text spells a run of digits, at least one, if it is that run with or without a plus sign in front
(`Text.Spells`). Reading it as a field of a calendar unit has one of four endings
(`Field.Reading`), and which of them is decided by the digits : too many of them are refused as
such before their value is known, and else the value is held against the maximum of the unit. A
text that spells no digits is refused for that.

So the errors of dates and times leave out exactly the numerals of too many digits
(`Field.parse_str_eq_iff`), among them numerals of zero (`Field.not_parse_eq_ok_of_spells`).
-/

namespace CivilTime

/-! ## Numerals and the digits they spell -/

namespace Text

/-- Whether a text is a run of digits, at least one, behind at most one plus sign. -/
structure Spells (text : String) (digits : List Char) : Prop where
  nonempty : digits ≠ []
  areDigits : AreDigits digits
  sign : text.toList = digits ∨ text.toList = '+' :: digits

theorem dropPlus_of_spells {text : String} {digits : List Char} (h : Spells text digits) :
    dropPlus text.toList = digits := by
  rcases h.sign with bare | signed
  · rw [bare, dropPlus_of_areDigits h.areDigits]
  · rw [signed, dropPlus]

theorem Spells.isNumeral {text : String} {digits : List Char} (h : Spells text digits) :
    IsNumeral text.toList := by
  rw [IsNumeral, dropPlus_of_spells h]
  exact ⟨h.nonempty, h.areDigits⟩

theorem isNumeral_iff_exists_spells {text : String} :
    IsNumeral text.toList ↔ ∃ digits, Spells text digits := by
  constructor
  · intro h
    obtain ⟨digits, nonempty, areDigits, sign⟩ := h.cases
    exact ⟨digits, nonempty, areDigits, sign⟩
  · rintro ⟨digits, h⟩
    exact h.isNumeral

theorem decimalValue_zeros (n : Nat) : decimalValue (List.replicate n '0') = 0 := by
  simpa using decimalValue_replicate_append n []

theorem spells_zeros {n : Nat} (h : 0 < n) :
    Spells (String.ofList (List.replicate n '0')) (List.replicate n '0') where
  nonempty := by
    rw [← List.length_pos_iff, List.length_replicate]
    exact h
  areDigits := areDigits_replicate_zero n
  sign := .inl String.toList_ofList

end Text

open Text

theorem readNumeral_of_spells {text : String} {digits : List Char} (h : Spells text digits)
    (short : digits.length ≤ 4300) : readNumeral text = .ok (decimalValue digits) := by
  have value : numeralValue text.toList = decimalValue digits := by
    rw [numeralValue, dropPlus_of_spells h]
  rw [readNumeral_of_isNumeral h.isNumeral (by rwa [dropPlus_of_spells h]), value]

/-- Too many digits are refused before their value is formed. -/
theorem readNumeral_of_spells_of_lt {text : String} {digits : List Char} (h : Spells text digits)
    (long : 4300 < digits.length) :
    readNumeral text = .error (.value (.tooLongToRead digits.length)) := by
  rw [readNumeral, unsignedDigits?_of_isNumeral h.isNumeral, dropPlus_of_spells h]
  exact if_pos long

/-! ## The endings of reading a field -/

namespace Field

/-- The endings that reading a text as a field of a unit has. -/
inductive Reading (u : CalendarUnit) (text : String) : Attempt Field → Prop
  /-- The digits are those of a number in the range of the unit. -/
  | inRange {digits : List Char} : Spells text digits → digits.length ≤ 4300 →
    (decimalValue digits : Int) ≤ u.max →
    Reading u text (.ok ⟨.standard u, .int (decimalValue digits)⟩)
  /-- The digits are those of a number above the range of the unit. -/
  | above {digits : List Char} : Spells text digits → digits.length ≤ 4300 →
    u.max < (decimalValue digits : Int) →
    Reading u text (.error (.dateTime (.overflow (.str u.name) (.int u.max))))
  /-- There are no digits, or something else is with them. -/
  | noNumeral : (∀ digits, ¬Spells text digits) →
    Reading u text (.error (.dateTime (.notDecimal text)))
  /-- There are too many digits. -/
  | tooLong {digits : List Char} : Spells text digits → 4300 < digits.length →
    Reading u text (.error (.value (.tooLongToRead digits.length)))

/-- Every text has an ending. -/
theorem exists_reading (u : CalendarUnit) (text : String) : ∃ r, Reading u text r := by
  by_cases numeral : ∃ digits, Spells text digits
  · obtain ⟨digits, h⟩ := numeral
    rcases Nat.lt_or_ge 4300 digits.length with long | short
    · exact ⟨_, .tooLong h long⟩
    · rcases Int.lt_or_le u.max (decimalValue digits) with upper | inside
      · exact ⟨_, .above h short upper⟩
      · exact ⟨_, .inRange h short inside⟩
  · exact ⟨_, .noNumeral (not_exists.mp numeral)⟩

/-- What a text is read as is its ending. -/
theorem Reading.parse_eq {u : CalendarUnit} {text : String} {r : Attempt Field}
    (h : Reading u text r) : parse (.standard u) (.str text) = r := by
  rw [parse_str]
  cases h with
  | inRange h short inside =>
    rw [readNumeral_of_spells h short, Attempt.ok_bind]
    exact tryFrom_standard_of_le (Int.natCast_nonneg _) inside
  | above h short upper =>
    rw [readNumeral_of_spells h short, Attempt.ok_bind]
    exact tryFrom_standard_of_gt upper
  | noNumeral none =>
    rw [readNumeral_of_not_isNumeral (mt isNumeral_iff_exists_spells.mp (not_exists.mpr none)),
      Attempt.error_bind]
  | tooLong h long =>
    rw [readNumeral_of_spells_of_lt h long, Attempt.error_bind]

theorem parse_eq_iff_reading {u : CalendarUnit} {text : String} {r : Attempt Field} :
    parse (.standard u) (.str text) = r ↔ Reading u text r := by
  refine ⟨fun outcome => ?_, Reading.parse_eq⟩
  obtain ⟨r', h⟩ := exists_reading u text
  rwa [← outcome, h.parse_eq]

/-- A text is read as a field exactly if it spells the digits, not too many, of a number in the
range of the unit, and as the field of that number. It overflows exactly if the number lies above
the range, and is no numeral exactly if it spells no digits. Too many digits are the one cause of a
failure that is no error of dates and times, whatever number they are of. -/
theorem parse_str_eq_iff (u : CalendarUnit) (text : String) :
    (∀ f, parse (.standard u) (.str text) = .ok f ↔
      ∃ digits, Spells text digits ∧ digits.length ≤ 4300 ∧ (decimalValue digits : Int) ≤ u.max ∧
        f = ⟨.standard u, .int (decimalValue digits)⟩) ∧
    (parse (.standard u) (.str text) =
        .error (.dateTime (.overflow (.str u.name) (.int u.max))) ↔
      ∃ digits, Spells text digits ∧ digits.length ≤ 4300 ∧
        u.max < (decimalValue digits : Int)) ∧
    (parse (.standard u) (.str text) = .error (.dateTime (.notDecimal text)) ↔
      ∀ digits, ¬Spells text digits) ∧
    ∀ cause, parse (.standard u) (.str text) = .error cause →
      cause = .dateTime (.overflow (.str u.name) (.int u.max)) ∨
        cause = .dateTime (.notDecimal text) ∨
        ∃ digits, Spells text digits ∧ 4300 < digits.length ∧
          cause = .value (.tooLongToRead digits.length) := by
  simp only [parse_eq_iff_reading]
  refine ⟨fun f => ⟨fun h => ?_, ?_⟩, ⟨fun h => ?_, ?_⟩, ⟨fun h => ?_, .noNumeral⟩,
    fun cause h => ?_⟩
  · cases h with
    | inRange h short inside => exact ⟨_, h, short, inside, rfl⟩
  · rintro ⟨digits, h, short, inside, rfl⟩
    exact .inRange h short inside
  · cases h with
    | above h short upper => exact ⟨_, h, short, upper⟩
  · rintro ⟨digits, h, short, upper⟩
    exact .above h short upper
  · cases h with
    | noNumeral none => exact none
  · cases h with
    | above => exact .inl rfl
    | noNumeral => exact .inr (.inl rfl)
    | tooLong h long => exact .inr (.inr ⟨_, h, long, rfl⟩)

/-- Zeros in any number spell the zero, which every unit has in its range; but too many of them are
refused, and by no error of dates and times. -/
theorem parse_zeros (u : CalendarUnit) {n : Nat} (h : 4300 < n) :
    parse (.standard u) (.str (String.ofList (List.replicate n '0'))) =
      .error (.value (.tooLongToRead n)) := by
  have long : 4300 < (List.replicate n '0').length := by rwa [List.length_replicate]
  have refused := (Reading.tooLong (u := u) (spells_zeros (by omega)) long).parse_eq
  rwa [List.length_replicate] at refused

/-- Not every numeral of a number in the range of a unit is read as a field. -/
theorem not_parse_eq_ok_of_spells : ¬∀ (u : CalendarUnit) (text : String) (digits : List Char),
    Spells text digits → (decimalValue digits : Int) ≤ u.max →
      ∃ f, parse (.standard u) (.str text) = .ok f := by
  intro all
  have inside : (decimalValue (List.replicate 4301 '0') : Int) ≤ CalendarUnit.month.max := by
    rw [decimalValue_zeros]
    exact CalendarUnit.max_nonneg .month
  obtain ⟨f, read⟩ := all .month _ _ (spells_zeros (by decide)) inside
  rw [parse_zeros .month (by decide)] at read
  cases read

end Field

end CivilTime
