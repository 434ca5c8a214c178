import CivilTime.Proofs.Layout

/-!
# Which texts are date-times

A text is read exactly if it has the layout of the wire, its six slices are numerals, and the
numbers lie in the ranges of the wire (`ofWire_eq_ok_iff`). Where the slices are numerals their
numbers decide (`ofSlices_of_areNumerals`) : `ofNumbers` checks them from left to right and takes
one away from month and day at the end, which is what keeps a zero out of these two.

`outcome_parse_eq_ok_iff` says the same place by place, with the date-time that comes out.
-/

namespace CivilTime.DateTime

/-! ## Numbers -/

/-- Six numbers, each under its part. -/
def countsOf (year month day hour minute second : Int) : Part → Int
  | .year => year
  | .month => month
  | .day => day
  | .hour => hour
  | .minute => minute
  | .second => second

/-- The date-time that holds six integers. -/
def ofCounts (c : Part → Int) : DateTime where
  year := .int (c .year)
  month := ⟨.standard .month, .int (c .month)⟩
  day := ⟨.standard .day, .int (c .day)⟩
  hour := ⟨.standard .hour, .int (c .hour)⟩
  minute := ⟨.standard .minute, .int (c .minute)⟩
  second := ⟨.standard .second, .int (c .second)⟩

/-- Numbers on the wire as they are stored. -/
def stored (n : Part → Int) (p : Part) : Int :=
  n p - p.wireOffset

/-- Whether numbers lie in the ranges of the wire. Only the year has none. -/
structure WireRanges (n : Part → Int) : Prop where
  month : 1 ≤ n .month ∧ n .month ≤ 12
  day : 1 ≤ n .day ∧ n .day ≤ 32
  hour : 0 ≤ n .hour ∧ n .hour ≤ 24
  minute : 0 ≤ n .minute ∧ n .minute ≤ 60
  second : 0 ≤ n .second ∧ n .second ≤ 60

/-- The date-time of six numbers on the wire, checked in the order of reading. -/
def ofNumbers (n : Part → Int) : Attempt DateTime := do
  let month ← Field.tryFrom (.standard .month) (.int (n .month))
  let day ← Field.tryFrom (.standard .day) (.int (n .day))
  let hour ← Field.tryFrom (.standard .hour) (.int (n .hour))
  let minute ← Field.tryFrom (.standard .minute) (.int (n .minute))
  let second ← Field.tryFrom (.standard .second) (.int (n .second))
  let month ← month.combine .sub (.int 1)
  let day ← day.combine .sub (.int 1)
  return ⟨.int (n .year), month, day, hour, minute, second⟩

theorem ofNumbers_of_wireRanges {n : Part → Int} (h : WireRanges n) :
    ofNumbers n = .ok (ofCounts (stored n)) := by
  obtain ⟨month, day, hour, minute, second⟩ := h
  have readMonth : Field.tryFrom (.standard .month) (.int (n .month)) = .ok _ :=
    Field.tryFrom_standard_of_le (by omega) month.2
  have readDay : Field.tryFrom (.standard .day) (.int (n .day)) = .ok _ :=
    Field.tryFrom_standard_of_le (by omega) day.2
  have readHour : Field.tryFrom (.standard .hour) (.int (n .hour)) = .ok _ :=
    Field.tryFrom_standard_of_le hour.1 hour.2
  have readMinute : Field.tryFrom (.standard .minute) (.int (n .minute)) = .ok _ :=
    Field.tryFrom_standard_of_le minute.1 minute.2
  have readSecond : Field.tryFrom (.standard .second) (.int (n .second)) = .ok _ :=
    Field.tryFrom_standard_of_le second.1 second.2
  have shiftMonth : Field.tryFrom (.standard .month) (.int (n .month - 1)) = .ok _ :=
    Field.tryFrom_standard_of_le (by omega) (by simp only [CalendarUnit.max]; omega)
  have shiftDay : Field.tryFrom (.standard .day) (.int (n .day - 1)) = .ok _ :=
    Field.tryFrom_standard_of_le (by omega) (by simp only [CalendarUnit.max]; omega)
  simp [ofNumbers, readMonth, readDay, readHour, readMinute, readSecond,
    Field.combine_standard_int, Operation.onIntegers, shiftMonth, shiftDay, ofCounts, stored,
    Part.wireOffset]

theorem wireRanges_of_ofNumbers {n : Part → Int} {dt : DateTime} (h : ofNumbers n = .ok dt) :
    WireRanges n := by
  obtain ⟨month, hmonth, h⟩ := Attempt.bind_eq_ok_iff.mp h
  obtain ⟨day, hday, h⟩ := Attempt.bind_eq_ok_iff.mp h
  obtain ⟨hour, hhour, h⟩ := Attempt.bind_eq_ok_iff.mp h
  obtain ⟨minute, hminute, h⟩ := Attempt.bind_eq_ok_iff.mp h
  obtain ⟨second, hsecond, h⟩ := Attempt.bind_eq_ok_iff.mp h
  obtain ⟨shiftedMonth, hshiftedMonth, h⟩ := Attempt.bind_eq_ok_iff.mp h
  obtain ⟨shiftedDay, hshiftedDay, -⟩ := Attempt.bind_eq_ok_iff.mp h
  obtain ⟨monthRange, rfl⟩ := Field.tryFrom_standard_eq_ok_iff.mp hmonth
  obtain ⟨dayRange, rfl⟩ := Field.tryFrom_standard_eq_ok_iff.mp hday
  rw [Field.combine_standard_int, Field.tryFrom_standard_eq_ok_iff] at hshiftedMonth hshiftedDay
  have monthLower : 0 ≤ n .month - 1 := hshiftedMonth.1.1
  have dayLower : 0 ≤ n .day - 1 := hshiftedDay.1.1
  exact
    { month := ⟨by omega, monthRange.2⟩
      day := ⟨by omega, dayRange.2⟩
      hour := (Field.tryFrom_standard_eq_ok_iff.mp hhour).1
      minute := (Field.tryFrom_standard_eq_ok_iff.mp hminute).1
      second := (Field.tryFrom_standard_eq_ok_iff.mp hsecond).1 }

theorem ofNumbers_of_month_gt {n : Part → Int} (h : 12 < n .month) :
    ofNumbers n = .error (.dateTime (.overflow (.str "Month") (.int 12))) := by
  have month := Field.tryFrom_standard_of_gt (u := .month) h
  simp only [ofNumbers, month, Attempt.error_bind]
  rfl

theorem ofNumbers_of_day_gt {n : Part → Int} (lower : 0 ≤ n .month) (upper : n .month ≤ 12)
    (h : 32 < n .day) :
    ofNumbers n = .error (.dateTime (.overflow (.str "Day") (.int 32))) := by
  have month := Field.tryFrom_standard_of_le (u := .month) lower upper
  have day := Field.tryFrom_standard_of_gt (u := .day) h
  simp only [ofNumbers, month, day, Attempt.ok_bind, Attempt.error_bind]
  rfl

/-! ## Slices that are numerals -/

/-- Whether all slices are numerals. -/
def AreNumerals (slices : Part → List Char) : Prop :=
  ∀ p, Text.IsNumeral (slices p)

/-- The numbers of slices. -/
def numbers (slices : Part → List Char) (p : Part) : Int :=
  Text.numeralValue (slices p)

/-- A slice that fits is far shorter than the longest numeral that can be read. -/
theorem short_of_fit {slices : Part → List Char} (h : Fit slices) (p : Part) :
    (Text.dropPlus (slices p)).length ≤ Text.digitLimit := by
  have digits := Text.length_dropPlus_le (slices p)
  have width := p.width_le
  rw [h p] at digits
  unfold Text.digitLimit
  omega

theorem readNumeral_slice {slices : Part → List Char} (hfit : Fit slices) {p : Part}
    (h : Text.IsNumeral (slices p)) :
    readNumeral (String.ofList (slices p)) = .ok (Text.numeralValue (slices p)) := by
  have numeral : Text.IsNumeral (String.ofList (slices p)).toList := by
    rw [String.toList_ofList]
    exact h
  rw [readNumeral_of_isNumeral numeral] <;> rw [String.toList_ofList]
  exact short_of_fit hfit p

/-- Where the slices are numerals their numbers decide. -/
theorem ofSlices_of_areNumerals {slices : Part → List Char} (hfit : Fit slices)
    (h : AreNumerals slices) : ofSlices slices = ofNumbers (numbers slices) := by
  simp only [ofSlices, Field.parse_str, readNumeral_slice hfit (h _), Attempt.ok_bind]
  rfl

theorem readNumeral_slice_of_not_isNumeral {slices : Part → List Char} {p : Part}
    (h : ¬Text.IsNumeral (slices p)) : readNumeral (String.ofList (slices p)) =
      .error (.dateTime (.notDecimal (String.ofList (slices p)))) := by
  rw [← String.toList_ofList (l := slices p)] at h
  exact readNumeral_of_not_isNumeral h

/-- A year that is no numeral is refused before the other slices are looked at. -/
theorem ofSlices_of_year_not_isNumeral {slices : Part → List Char}
    (h : ¬Text.IsNumeral (slices .year)) :
    ofSlices slices = .error (.dateTime (.notDecimal (String.ofList (slices .year)))) := by
  simp only [ofSlices, readNumeral_slice_of_not_isNumeral h, Attempt.error_bind]

theorem areNumerals_of_ofSlices {slices : Part → List Char} {dt : DateTime}
    (h : ofSlices slices = .ok dt) : AreNumerals slices := by
  obtain ⟨_, year, h⟩ := Attempt.bind_eq_ok_iff.mp h
  obtain ⟨_, month, h⟩ := Attempt.bind_eq_ok_iff.mp h
  obtain ⟨_, day, h⟩ := Attempt.bind_eq_ok_iff.mp h
  obtain ⟨_, hour, h⟩ := Attempt.bind_eq_ok_iff.mp h
  obtain ⟨_, minute, h⟩ := Attempt.bind_eq_ok_iff.mp h
  obtain ⟨_, second, -⟩ := Attempt.bind_eq_ok_iff.mp h
  have numeral : ∀ {text : List Char} {n : Nat}, readNumeral (String.ofList text) = .ok n →
      Text.IsNumeral text := fun hn => by
    simpa only [String.toList_ofList] using (readNumeral_eq_ok_iff.mp hn).1
  have field : ∀ {u : CalendarUnit} {text : List Char} {f : Field},
      Field.parse (.standard u) (.str (String.ofList text)) = .ok f → Text.IsNumeral text := by
    intro u text f hf
    obtain ⟨n, hn, -⟩ := Attempt.bind_eq_ok_iff.mp hf
    exact numeral hn
  intro p
  cases p with
  | year => exact numeral year
  | month => exact field month
  | day => exact field day
  | hour => exact field hour
  | minute => exact field minute
  | second => exact field second

/-! ## Texts -/

/-- The numbers at the places of a text. -/
def wireNumbers (text : String) : Part → Int :=
  numbers (slicesOf text)

/-- Reading succeeds on texts of the layout whose slices are numerals of numbers in their ranges. -/
theorem ofWire_eq_ok_iff {text : String} {dt : DateTime} :
    ofWire text = .ok dt ↔ HasLayout text ∧ AreNumerals (slicesOf text) ∧
      WireRanges (wireNumbers text) ∧ dt = ofCounts (stored (wireNumbers text)) := by
  constructor
  · intro h
    have layout := hasLayout_of_ofWire h
    rw [ofWire_of_hasLayout layout] at h
    have numerals := areNumerals_of_ofSlices h
    rw [ofSlices_of_areNumerals (fit_slicesOf layout) numerals] at h
    have ranges := wireRanges_of_ofNumbers h
    rw [ofNumbers_of_wireRanges ranges] at h
    exact ⟨layout, numerals, ranges, (Except.ok.inj h).symm⟩
  · rintro ⟨layout, numerals, ranges, rfl⟩
    rw [ofWire_of_hasLayout layout, ofSlices_of_areNumerals (fit_slicesOf layout) numerals]
    exact ofNumbers_of_wireRanges ranges

theorem outcome_parseText (text : String) : (parseText text).outcome = ofWire text := by
  unfold parseText
  split
  · next h => rw [h]; rfl
  · next h => rw [h]; rfl
  · next h => rw [h]; rfl

/-! ## Place by place -/

/-- A slice of digits, but for a plus sign that may stand in the place of the first. -/
def IsSlice (width : Nat) (slice : List Char) : Prop :=
  (slice.length = width ∧ Text.AreDigits slice) ∨
    ∃ digits, slice = '+' :: digits ∧ digits.length + 1 = width ∧ Text.AreDigits digits

/-- The number of the characters from one place up to another, the last one excluded. -/
def numberAt (start stop : Nat) (text : String) : Int :=
  Text.numeralValue (cut start stop text).toList

/-- The conditions on a text on the wire, place by place. -/
structure IsWireText (text : String) : Prop where
  length : text.length = 19
  dash₄ : text.toList[4]? = some '-'
  dash₇ : text.toList[7]? = some '-'
  mark₁₀ : text.toList[10]? = some 'T'
  colon₁₃ : text.toList[13]? = some ':'
  colon₁₆ : text.toList[16]? = some ':'
  year : IsSlice 4 (cut 0 4 text).toList
  month : IsSlice 2 (cut 5 7 text).toList
  day : IsSlice 2 (cut 8 10 text).toList
  hour : IsSlice 2 (cut 11 13 text).toList
  minute : IsSlice 2 (cut 14 16 text).toList
  second : IsSlice 2 (cut 17 19 text).toList
  monthRange : 1 ≤ numberAt 5 7 text ∧ numberAt 5 7 text ≤ 12
  dayRange : 1 ≤ numberAt 8 10 text ∧ numberAt 8 10 text ≤ 32
  hourRange : 0 ≤ numberAt 11 13 text ∧ numberAt 11 13 text ≤ 24
  minuteRange : 0 ≤ numberAt 14 16 text ∧ numberAt 14 16 text ≤ 60
  secondRange : 0 ≤ numberAt 17 19 text ∧ numberAt 17 19 text ≤ 60

/-- A numeral of at least two characters is a slice of its width, and there are no others. -/
theorem isSlice_iff {width : Nat} {slice : List Char} (h : 2 ≤ width) :
    IsSlice width slice ↔ slice.length = width ∧ Text.IsNumeral slice := by
  constructor
  · rintro (⟨rfl, digits⟩ | ⟨digits, rfl, rfl, hdigits⟩)
    · have hne : slice ≠ [] := by
        rintro rfl
        simp at h
      exact ⟨rfl, Text.isNumeral_of_areDigits hne digits⟩
    · have hne : digits ≠ [] := by
        rintro rfl
        simp at h
      exact ⟨rfl, hne, hdigits⟩
  · rintro ⟨rfl, numeral⟩
    obtain ⟨digits, -, hdigits, rfl | rfl⟩ := numeral.cases
    · exact Or.inl ⟨rfl, hdigits⟩
    · exact Or.inr ⟨digits, rfl, rfl, hdigits⟩

theorem toList_cut_part (p : Part) (text : String) :
    (cut p.start (p.start + p.width) text).toList = slicesOf text p := by
  rw [cut, String.toList_ofList, Nat.add_sub_cancel_left, slicesOf]

theorem wireNumbers_eq (text : String) (p : Part) :
    wireNumbers text p = numberAt p.start (p.start + p.width) text := by
  rw [numberAt, toList_cut_part, wireNumbers, numbers]

theorem wireRanges_wireNumbers_iff {text : String} :
    WireRanges (wireNumbers text) ↔
      (1 ≤ numberAt 5 7 text ∧ numberAt 5 7 text ≤ 12) ∧
      (1 ≤ numberAt 8 10 text ∧ numberAt 8 10 text ≤ 32) ∧
      (0 ≤ numberAt 11 13 text ∧ numberAt 11 13 text ≤ 24) ∧
      (0 ≤ numberAt 14 16 text ∧ numberAt 14 16 text ≤ 60) ∧
      (0 ≤ numberAt 17 19 text ∧ numberAt 17 19 text ≤ 60) := by
  have fields : ∀ n : Part → Int, WireRanges n ↔
      (1 ≤ n .month ∧ n .month ≤ 12) ∧ (1 ≤ n .day ∧ n .day ≤ 32) ∧
      (0 ≤ n .hour ∧ n .hour ≤ 24) ∧ (0 ≤ n .minute ∧ n .minute ≤ 60) ∧
      (0 ≤ n .second ∧ n .second ≤ 60) := fun n =>
    ⟨fun h => ⟨h.month, h.day, h.hour, h.minute, h.second⟩,
      fun ⟨month, day, hour, minute, second⟩ => ⟨month, day, hour, minute, second⟩⟩
  simp only [fields, wireNumbers_eq, Part.start, Part.width, Nat.reduceAdd]

theorem hasLayout_iff {text : String} :
    HasLayout text ↔ text.length = 19 ∧ text.toList[4]? = some '-' ∧ text.toList[7]? = some '-' ∧
      text.toList[10]? = some 'T' ∧ text.toList[13]? = some ':' ∧ text.toList[16]? = some ':' := by
  constructor
  · rintro ⟨length, found⟩
    exact ⟨length, found (4, '-') (by decide), found (7, '-') (by decide),
      found (10, 'T') (by decide), found (13, ':') (by decide), found (16, ':') (by decide)⟩
  · rintro ⟨length, dash₄, dash₇, mark₁₀, colon₁₃, colon₁₆⟩
    refine ⟨length, ?_⟩
    simp [delimiters, dash₄, dash₇, mark₁₀, colon₁₃, colon₁₆]

theorem areNumerals_iff {text : String} (h : HasLayout text) :
    AreNumerals (slicesOf text) ↔
      IsSlice 4 (cut 0 4 text).toList ∧ IsSlice 2 (cut 5 7 text).toList ∧
      IsSlice 2 (cut 8 10 text).toList ∧ IsSlice 2 (cut 11 13 text).toList ∧
      IsSlice 2 (cut 14 16 text).toList ∧ IsSlice 2 (cut 17 19 text).toList := by
  have slice : ∀ p : Part, Text.IsNumeral (slicesOf text p) ↔
      IsSlice p.width (cut p.start (p.start + p.width) text).toList := by
    intro p
    have width : 2 ≤ p.width := by cases p <;> decide
    rw [toList_cut_part, isSlice_iff width, and_iff_right (fit_slicesOf h p)]
  simp only [AreNumerals, slice, Part.forall_iff, Part.start, Part.width, Nat.reduceAdd]

theorem isWireText_iff {text : String} :
    IsWireText text ↔ HasLayout text ∧ AreNumerals (slicesOf text) ∧
      WireRanges (wireNumbers text) := by
  constructor
  · rintro ⟨length, dash₄, dash₇, mark₁₀, colon₁₃, colon₁₆, year, month, day, hour, minute, second,
      monthRange, dayRange, hourRange, minuteRange, secondRange⟩
    have layout := hasLayout_iff.mpr ⟨length, dash₄, dash₇, mark₁₀, colon₁₃, colon₁₆⟩
    exact ⟨layout, (areNumerals_iff layout).mpr ⟨year, month, day, hour, minute, second⟩,
      wireRanges_wireNumbers_iff.mpr
        ⟨monthRange, dayRange, hourRange, minuteRange, secondRange⟩⟩
  · rintro ⟨layout, numerals, ranges⟩
    obtain ⟨length, dash₄, dash₇, mark₁₀, colon₁₃, colon₁₆⟩ := hasLayout_iff.mp layout
    obtain ⟨year, month, day, hour, minute, second⟩ := (areNumerals_iff layout).mp numerals
    obtain ⟨monthRange, dayRange, hourRange, minuteRange, secondRange⟩ :=
      wireRanges_wireNumbers_iff.mp ranges
    exact ⟨length, dash₄, dash₇, mark₁₀, colon₁₃, colon₁₆, year, month, day, hour, minute, second,
      monthRange, dayRange, hourRange, minuteRange, secondRange⟩

/-- A text is a date-time exactly if it meets the conditions at all places, and the date-time holds
the numbers that stand there, month and day less one, under the kinds of their units. -/
theorem outcome_parse_eq_ok_iff (text : String) (dt : DateTime) :
    (parse (.str text)).outcome = .ok dt ↔ IsWireText text ∧
      dt =
        { year := .int (numberAt 0 4 text)
          month := ⟨.standard .month, .int (numberAt 5 7 text - 1)⟩
          day := ⟨.standard .day, .int (numberAt 8 10 text - 1)⟩
          hour := ⟨.standard .hour, .int (numberAt 11 13 text)⟩
          minute := ⟨.standard .minute, .int (numberAt 14 16 text)⟩
          second := ⟨.standard .second, .int (numberAt 17 19 text)⟩ } := by
  have counts : ofCounts (stored (wireNumbers text)) =
      { year := .int (numberAt 0 4 text)
        month := ⟨.standard .month, .int (numberAt 5 7 text - 1)⟩
        day := ⟨.standard .day, .int (numberAt 8 10 text - 1)⟩
        hour := ⟨.standard .hour, .int (numberAt 11 13 text)⟩
        minute := ⟨.standard .minute, .int (numberAt 14 16 text)⟩
        second := ⟨.standard .second, .int (numberAt 17 19 text)⟩ } := by
    simp [ofCounts, stored, wireNumbers_eq, Part.start, Part.width, Part.wireOffset]
  rw [parse, outcome_parseText, ofWire_eq_ok_iff, isWireText_iff, counts]
  simp only [and_assoc]

end CivilTime.DateTime
