import CivilTime.Proofs.Reading

/-!
# Writing and reading back

Writing fills the six numbers of a date-time up to the widths of their places (`toWire_of_holds`).
What comes out has the layout of the wire exactly if the year, with its sign, takes no more than
four characters (`fit_wireSlices_iff`), and then reading it checks the numbers again, month and day
one higher than they are stored (`ofWire_wireSlices`). That one is why the last month and the last
day of the stored ranges cannot be read back.

A text that is read is written with a zero in the place of each plus sign (`toWire_of_ofWire`), and
what is written is read as the very same date-time (`ofWire_map_zeroForPlus`).
-/

namespace CivilTime

theorem Part.width_of_ne_year {p : Part} (hp : p ≠ .year) : p.width = 2 := by
  cases p with
  | year => exact absurd rfl hp
  | _ => rfl

theorem Part.wireOffset_bounds (p : Part) : 0 ≤ p.wireOffset ∧ p.wireOffset ≤ 1 := by
  cases p <;> decide

namespace DateTime

/-! ## Dates that hold numbers -/

/-- A date-time that holds six numbers, those of its fields in the ranges of their units. -/
structure Holds (dt : DateTime) (c : Part → Int) : Prop where
  year : dt.year.integer? = some (c .year)
  month : dt.month.Holds .month (c .month)
  day : dt.day.Holds .day (c .day)
  hour : dt.hour.Holds .hour (c .hour)
  minute : dt.minute.Holds .minute (c .minute)
  second : dt.second.Holds .second (c .second)

/-- Date-times that hold numbers are equal if their numbers are. -/
theorem same_of_holds {a b : DateTime} {c d : Part → Int} (ha : a.Holds c) (hb : b.Holds d) :
    a.same b = true ↔ c = d := by
  rw [funext_iff, Part.forall_iff, same]
  simp only [Bool.and_eq_true, Value.same_of_integer? ha.year hb.year,
    Field.same_of_holds ha.month hb.month, Field.same_of_holds ha.day hb.day,
    Field.same_of_holds ha.hour hb.hour, Field.same_of_holds ha.minute hb.minute,
    Field.same_of_holds ha.second hb.second, and_assoc]

/-- Numbers in the stored ranges. -/
theorem Holds.ofCounts {dt : DateTime} {c : Part → Int} (h : dt.Holds c) :
    (ofCounts c).Holds c where
  year := rfl
  month := ⟨rfl, rfl, h.month.nonneg, h.month.le_max⟩
  day := ⟨rfl, rfl, h.day.nonneg, h.day.le_max⟩
  hour := ⟨rfl, rfl, h.hour.nonneg, h.hour.le_max⟩
  minute := ⟨rfl, rfl, h.minute.nonneg, h.minute.le_max⟩
  second := ⟨rfl, rfl, h.second.nonneg, h.second.le_max⟩

/-- Every part of a date-time but the year is a field of its unit that holds its number. -/
theorem Holds.exists_part {dt : DateTime} {c : Part → Int} (h : dt.Holds c) {p : Part}
    (hp : p ≠ .year) :
    ∃ u f, p.unit? = some u ∧ dt.part p = Field.toValue f ∧ f.Holds u (c p) := by
  cases p with
  | year => exact absurd rfl hp
  | month => exact ⟨_, _, rfl, rfl, h.month⟩
  | day => exact ⟨_, _, rfl, rfl, h.day⟩
  | hour => exact ⟨_, _, rfl, rfl, h.hour⟩
  | minute => exact ⟨_, _, rfl, rfl, h.minute⟩
  | second => exact ⟨_, _, rfl, rfl, h.second⟩

/-- Every part of a date-time but the year is a number of at most two digits on the wire. -/
theorem Holds.wire_lt {dt : DateTime} {c : Part → Int} (h : dt.Holds c) {p : Part}
    (hp : p ≠ .year) : 0 ≤ c p + p.wireOffset ∧ c p + p.wireOffset < 100 := by
  obtain ⟨u, f, -, -, hf⟩ := h.exists_part hp
  have nonneg : 0 ≤ c p := hf.nonneg
  have le_max : c p ≤ u.max := hf.le_max
  have bound : u.max ≤ 60 := u.max_le
  have offset := p.wireOffset_bounds
  omega

/-! ## Writing -/

/-- The slices that numbers are written as. -/
def wireSlices (c : Part → Int) (p : Part) : List Char :=
  Text.zeroPadded p.width (c p + p.wireOffset)

theorem wireSlices_year (c : Part → Int) :
    wireSlices c .year = Text.zeroPadded 4 (c .year) := by
  have offset : c .year + Part.wireOffset .year = c .year := Int.add_zero _
  rw [wireSlices, offset, Part.width]

theorem write_wire {n : Int} (lower : 0 ≤ n) (upper : n < 100) :
    (Filling.zeros 2).write n = .ok (String.ofList (Text.zeroPadded 2 n)) := by
  have digits : (Text.naturalDigits n.natAbs).length ≤ 2 :=
    (Text.length_naturalDigits_le_iff (by decide)).mpr (by omega)
  exact Filling.write_zeros (Nat.le_trans digits (by decide)) 2

/-- A date-time that holds numbers is written as their slices, with the delimiters between them. -/
theorem toWire_of_holds {dt : DateTime} {c : Part → Int} (h : dt.Holds c)
    (digits : (Text.naturalDigits (c .year).natAbs).length ≤ Text.digitLimit) :
    dt.toWire = .ok (String.ofList (spaced (wireSlices c))) := by
  have field : ∀ {p : Part}, p ≠ .year → (Filling.zeros 2).write (c p + p.wireOffset) =
      .ok (String.ofList (Text.zeroPadded 2 (c p + p.wireOffset))) := fun hp =>
    write_wire (h.wire_lt hp).1 (h.wire_lt hp).2
  have month := field (p := .month) (by decide)
  have day := field (p := .day) (by decide)
  have hour := field (p := .hour) (by decide)
  have minute := field (p := .minute) (by decide)
  have second := field (p := .second) (by decide)
  simp only [Part.wireOffset, Int.add_zero] at month day hour minute second
  simp only [toWire, Value.format_of_integer? h.year, Filling.write_zeros digits,
    Field.toInteger_of_holds h.month, Field.toInteger_of_holds h.day,
    Field.toInteger_of_holds h.hour, Field.toInteger_of_holds h.minute,
    Field.toInteger_of_holds h.second, month, day, hour, minute, second, Attempt.ok_bind,
    Attempt.pure_eq_ok]
  congr 1
  apply String.ext
  simp [spaced, wireSlices, Part.width, Part.wireOffset]

theorem length_naturalDigits_of_le {n : Int} (lower : 0 ≤ n) (upper : n ≤ 9999) :
    (Text.naturalDigits n.natAbs).length ≤ Text.digitLimit := by
  have four : (Text.naturalDigits n.natAbs).length ≤ 4 :=
    (Text.length_naturalDigits_le_iff (by decide)).mpr (by omega)
  exact Nat.le_trans four (by decide)

/-! ## The layout of what is written -/

theorem length_wireSlices {dt : DateTime} {c : Part → Int} (h : dt.Holds c) {p : Part}
    (hp : p ≠ .year) : (wireSlices c p).length = 2 := by
  obtain ⟨lower, upper⟩ := h.wire_lt hp
  have digits : (Text.naturalDigits (c p + p.wireOffset).natAbs).length ≤ 2 :=
    (Text.length_naturalDigits_le_iff (by decide)).mpr (by omega)
  rw [wireSlices, Part.width_of_ne_year hp, Text.length_zeroPadded,
    Text.length_signedDigits_of_nonneg lower]
  omega

theorem length_wireSlices_year (c : Part → Int) :
    (wireSlices c .year).length = max 4 (Text.signedDigits (c .year)).length := by
  rw [wireSlices_year, Text.length_zeroPadded]

/-- Only the year makes a text longer or shorter than others. -/
theorem length_spaced_wireSlices {dt : DateTime} {c : Part → Int} (h : dt.Holds c) :
    (spaced (wireSlices c)).length = 15 + max 4 (Text.signedDigits (c .year)).length := by
  rw [length_spaced, length_wireSlices_year, length_wireSlices h (p := .month) (by decide),
    length_wireSlices h (p := .day) (by decide), length_wireSlices h (p := .hour) (by decide),
    length_wireSlices h (p := .minute) (by decide), length_wireSlices h (p := .second) (by decide)]
  omega

theorem length_signedDigits_le_four_iff (n : Int) :
    (Text.signedDigits n).length ≤ 4 ↔ -999 ≤ n ∧ n ≤ 9999 := by
  by_cases sign : n < 0
  · have three : (Text.naturalDigits n.natAbs).length ≤ 3 ↔ n.natAbs < 10 ^ 3 :=
      Text.length_naturalDigits_le_iff (by decide)
    rw [Text.length_signedDigits_of_neg sign, Nat.add_le_add_iff_right (n := 1), three]
    omega
  · have four : (Text.naturalDigits n.natAbs).length ≤ 4 ↔ n.natAbs < 10 ^ 4 :=
      Text.length_naturalDigits_le_iff (by decide)
    rw [Text.length_signedDigits_of_nonneg (by omega), four]
    omega

theorem fit_wireSlices_iff {dt : DateTime} {c : Part → Int} (h : dt.Holds c) :
    Fit (wireSlices c) ↔ -999 ≤ c .year ∧ c .year ≤ 9999 := by
  rw [← length_signedDigits_le_four_iff, Fit, Part.forall_iff, length_wireSlices_year,
    length_wireSlices h (p := .month) (by decide), length_wireSlices h (p := .day) (by decide),
    length_wireSlices h (p := .hour) (by decide), length_wireSlices h (p := .minute) (by decide),
    length_wireSlices h (p := .second) (by decide)]
  simp only [Part.width, and_true]
  omega

/-! ## Reading what is written -/

theorem isNumeral_wireSlices {c : Part → Int} {p : Part} (h : 0 ≤ c p + p.wireOffset) :
    Text.IsNumeral (wireSlices c p) := by
  rw [wireSlices, ← Int.toNat_of_nonneg h]
  exact Text.isNumeral_zeroPadded _ p.width_pos

theorem numbers_wireSlices {c : Part → Int} {p : Part} (h : 0 ≤ c p + p.wireOffset) :
    numbers (wireSlices c) p = c p + p.wireOffset := by
  rw [numbers, wireSlices, ← Int.toNat_of_nonneg h, Text.numeralValue_zeroPadded]

/-- Reading what is written checks the numbers of the wire. -/
theorem ofSlices_wireSlices {dt : DateTime} {c : Part → Int} (h : dt.Holds c)
    (lower : 0 ≤ c .year) (upper : c .year ≤ 9999) :
    ofSlices (wireSlices c) = ofNumbers fun p => c p + p.wireOffset := by
  have fit : Fit (wireSlices c) := (fit_wireSlices_iff h).mpr ⟨by omega, upper⟩
  have nonneg : ∀ p : Part, 0 ≤ c p + p.wireOffset := by
    intro p
    by_cases hp : p = .year
    · subst hp
      exact Int.add_nonneg lower (Int.le_refl 0)
    · exact (h.wire_lt hp).1
  have values : numbers (wireSlices c) = fun p => c p + p.wireOffset :=
    funext fun p => numbers_wireSlices (nonneg p)
  rw [ofSlices_of_areNumerals fit fun p => isNumeral_wireSlices (nonneg p), values]

theorem wireRanges_of_holds {dt : DateTime} {c : Part → Int} (h : dt.Holds c)
    (month : c .month ≠ 12) (day : c .day ≠ 32) :
    WireRanges fun p => c p + p.wireOffset := by
  have monthRange : 0 ≤ c .month ∧ c .month ≤ 12 := ⟨h.month.nonneg, h.month.le_max⟩
  have dayRange : 0 ≤ c .day ∧ c .day ≤ 32 := ⟨h.day.nonneg, h.day.le_max⟩
  have hourRange : 0 ≤ c .hour ∧ c .hour ≤ 24 := ⟨h.hour.nonneg, h.hour.le_max⟩
  have minuteRange : 0 ≤ c .minute ∧ c .minute ≤ 60 := ⟨h.minute.nonneg, h.minute.le_max⟩
  have secondRange : 0 ≤ c .second ∧ c .second ≤ 60 := ⟨h.second.nonneg, h.second.le_max⟩
  constructor <;> simp only [Part.wireOffset] <;> omega

/-- What becomes of numbers that are written as a text and read again. -/
def reread (c : Part → Int) (text : String) : Attempt DateTime :=
  if c .year < -999 ∨ 9999 < c .year then .error (.dateTime (.wrongLength text wireLength))
  else if c .year < 0 then .error (.dateTime (.notDecimal (cut 0 4 text)))
  else if c .month = 12 then .error (.dateTime (.overflow (.str "Month") (.int 12)))
  else if c .day = 32 then .error (.dateTime (.overflow (.str "Day") (.int 32)))
  else .ok (ofCounts c)

theorem reread_of_le {c : Part → Int} (lower : 0 ≤ c .year) (upper : c .year ≤ 9999)
    (month : c .month ≤ 11) (day : c .day ≤ 31) (text : String) :
    reread c text = .ok (ofCounts c) := by
  rw [reread, if_neg (by omega), if_neg (by omega), if_neg (by omega), if_neg (by omega)]

theorem ofWire_wireSlices {dt : DateTime} {c : Part → Int} (h : dt.Holds c) :
    ofWire (String.ofList (spaced (wireSlices c))) =
      reread c (String.ofList (spaced (wireSlices c))) := by
  unfold reread
  split_ifs with wide sign month day
  · refine ofWire_of_length_ne ?_
    have long : ¬(Text.signedDigits (c .year)).length ≤ 4 := by
      rw [length_signedDigits_le_four_iff]
      omega
    rw [String.length_ofList, length_spaced_wireSlices h, wireLength]
    omega
  · have fit : Fit (wireSlices c) := (fit_wireSlices_iff h).mpr (by omega)
    have year : ¬Text.IsNumeral (wireSlices c .year) := by
      rw [wireSlices_year]
      exact Text.not_isNumeral_zeroPadded sign 4
    have place : cut 0 4 (String.ofList (spaced (wireSlices c))) =
        String.ofList (slicesOf (String.ofList (spaced (wireSlices c))) .year) := rfl
    rw [ofWire_spaced fit, ofSlices_of_year_not_isNumeral year, place, slicesOf_spaced fit]
  · have fit : Fit (wireSlices c) := (fit_wireSlices_iff h).mpr (by omega)
    rw [ofWire_spaced fit, ofSlices_wireSlices h (by omega) (by omega)]
    refine ofNumbers_of_month_gt ?_
    show 12 < c .month + 1
    omega
  · have fit : Fit (wireSlices c) := (fit_wireSlices_iff h).mpr (by omega)
    have month : c .month ≤ 12 := h.month.le_max
    rw [ofWire_spaced fit, ofSlices_wireSlices h (by omega) (by omega)]
    refine ofNumbers_of_day_gt (h.wire_lt (p := .month) (by decide)).1 ?_ ?_
    · show c .month + 1 ≤ 12
      omega
    · show 32 < c .day + 1
      omega
  · have fit : Fit (wireSlices c) := (fit_wireSlices_iff h).mpr (by omega)
    have ranges := wireRanges_of_holds h (by omega) (by omega)
    have back : stored (fun p => c p + p.wireOffset) = c :=
      funext fun p => Int.add_sub_cancel _ _
    rw [ofWire_spaced fit, ofSlices_wireSlices h (by omega) (by omega),
      ofNumbers_of_wireRanges ranges, back]

/-! ## Reading back -/

/-- Whether a date-time can be written, and is read again as an equal one. -/
def ReadsBack (dt : DateTime) : Prop :=
  ∃ text back, dt.toWire = .ok text ∧ (parse (.str text)).outcome = .ok back ∧
    back.same dt = true

theorem same_ofCounts {dt : DateTime} {c : Part → Int} (h : dt.Holds c) :
    (ofCounts c).same dt = true :=
  (same_of_holds h.ofCounts h).mpr rfl

theorem outcome_parse_wireSlices {dt : DateTime} {c : Part → Int} (h : dt.Holds c) :
    (parse (.str (String.ofList (spaced (wireSlices c))))).outcome =
      reread c (String.ofList (spaced (wireSlices c))) := by
  rw [parse, outcome_parseText, ofWire_wireSlices h]

theorem reread_eq_ok_iff {dt : DateTime} {c : Part → Int} (h : dt.Holds c) (text : String) :
    (∃ back, reread c text = .ok back ∧ back.same dt = true) ↔
      0 ≤ c .year ∧ c .year ≤ 9999 ∧ c .month ≤ 11 ∧ c .day ≤ 31 := by
  have monthBound : c .month ≤ 12 := h.month.le_max
  have dayBound : c .day ≤ 32 := h.day.le_max
  constructor
  · rintro ⟨back, hback, -⟩
    unfold reread at hback
    split_ifs at hback
    omega
  · rintro ⟨lower, upper, month, day⟩
    exact ⟨_, reread_of_le lower upper month day text, same_ofCounts h⟩

theorem readsBack_iff {dt : DateTime} {c : Part → Int} (h : dt.Holds c)
    (digits : (Text.naturalDigits (c .year).natAbs).length ≤ Text.digitLimit) :
    dt.ReadsBack ↔ 0 ≤ c .year ∧ c .year ≤ 9999 ∧ c .month ≤ 11 ∧ c .day ≤ 31 := by
  rw [← reread_eq_ok_iff h (String.ofList (spaced (wireSlices c))), ReadsBack,
    toWire_of_holds h digits]
  constructor
  · rintro ⟨text, back, written, hback⟩
    obtain rfl := Except.ok.inj written
    exact ⟨back, outcome_parse_wireSlices h ▸ hback⟩
  · rintro ⟨back, hback⟩
    exact ⟨_, back, rfl, (outcome_parse_wireSlices h).symm ▸ hback⟩

/-- A date-time of a year of four digits can be written, and reading it checks the month and the day
of the wire. -/
theorem Holds.exists_toWire {dt : DateTime} {c : Part → Int} (h : dt.Holds c)
    (lower : 0 ≤ c .year) (upper : c .year ≤ 9999) :
    ∃ text, dt.toWire = .ok text ∧
      ((∃ back, (parse (.str text)).outcome = .ok back ∧ back.same dt = true) ↔
        c .month ≠ 12 ∧ c .day ≠ 32) ∧
      (c .month = 12 → (parse (.str text)).outcome =
        .error (.dateTime (.overflow (.str "Month") (.int 12)))) ∧
      (c .month ≠ 12 → c .day = 32 → (parse (.str text)).outcome =
        .error (.dateTime (.overflow (.str "Day") (.int 32)))) := by
  have monthBound : c .month ≤ 12 := h.month.le_max
  have dayBound : c .day ≤ 32 := h.day.le_max
  refine ⟨_, toWire_of_holds h (length_naturalDigits_of_le lower upper), ?_⟩
  rw [outcome_parse_wireSlices h, reread_eq_ok_iff h]
  refine ⟨by omega, fun month => ?_, fun month day => ?_⟩
  · rw [reread, if_neg (by omega), if_neg (by omega), if_pos month]
  · rw [reread, if_neg (by omega), if_neg (by omega), if_neg month, if_pos day]

theorem WireRanges.holds {n : Part → Int} (h : WireRanges n) :
    (DateTime.ofCounts (stored n)).Holds (stored n) := by
  obtain ⟨month, day, hour, minute, second⟩ := h
  have holds : ∀ {u : CalendarUnit} {m : Int}, 0 ≤ m ∧ m ≤ u.max →
      (⟨.standard u, .int m⟩ : Field).Holds u m := fun hm => ⟨rfl, rfl, hm.1, hm.2⟩
  refine ⟨rfl, holds ?_, holds ?_, holds ?_, holds ?_, holds ?_⟩ <;>
    simp only [stored, Part.wireOffset, CalendarUnit.max] <;> omega

theorem wireNumbers_year_bounds {text : String} (hlayout : HasLayout text)
    (h : AreNumerals (slicesOf text)) :
    0 ≤ wireNumbers text .year ∧ wireNumbers text .year ≤ 9999 := by
  have bound : Text.numeralValue (slicesOf text .year) < 10 ^ 4 := by
    rw [← show (slicesOf text .year).length = 4 from fit_slicesOf hlayout .year]
    exact Text.numeralValue_lt (h .year)
  simp only [wireNumbers, numbers]
  omega

/-- What is read from a text is written with a zero in the place of each plus sign. -/
theorem wireSlices_stored {text : String} (hlayout : HasLayout text)
    (h : AreNumerals (slicesOf text)) :
    wireSlices (stored (wireNumbers text)) =
      fun p => (slicesOf text p).map Text.zeroForPlus := by
  funext p
  rw [wireSlices, stored, Int.sub_add_cancel, wireNumbers, numbers,
    ← show (slicesOf text p).length = p.width from fit_slicesOf hlayout p,
    Text.zeroPadded_numeralValue (h p)]

theorem ofList_spaced_map {text : String} (h : HasLayout text) :
    String.ofList (spaced fun p => (slicesOf text p).map Text.zeroForPlus) =
      text.map Text.zeroForPlus := by
  rw [← map_spaced (by decide) (by decide) (by decide)]
  apply String.ext
  rw [String.toList_map, String.toList_ofList]
  conv_rhs => rw [← ofList_spaced_slicesOf h, String.toList_ofList]

theorem holds_of_ofWire {text : String} {dt : DateTime} (h : ofWire text = .ok dt) :
    dt.Holds (stored (wireNumbers text)) := by
  obtain ⟨-, -, ranges, rfl⟩ := ofWire_eq_ok_iff.mp h
  exact ranges.holds

/-- The numbers read from a text lie where a date-time can be read back. -/
theorem stored_bounds {text : String} {dt : DateTime} (h : ofWire text = .ok dt) :
    0 ≤ stored (wireNumbers text) .year ∧ stored (wireNumbers text) .year ≤ 9999 ∧
      stored (wireNumbers text) .month ≤ 11 ∧ stored (wireNumbers text) .day ≤ 31 := by
  obtain ⟨layout, numerals, ranges, -⟩ := ofWire_eq_ok_iff.mp h
  have year := wireNumbers_year_bounds layout numerals
  have month := ranges.month
  have day := ranges.day
  simp only [stored, Part.wireOffset]
  omega

theorem toWire_of_ofWire {text : String} {dt : DateTime} (h : ofWire text = .ok dt) :
    dt.toWire = .ok (text.map Text.zeroForPlus) := by
  obtain ⟨layout, numerals, -, -⟩ := ofWire_eq_ok_iff.mp h
  obtain ⟨lower, upper, -, -⟩ := stored_bounds h
  rw [toWire_of_holds (holds_of_ofWire h) (length_naturalDigits_of_le lower upper),
    wireSlices_stored layout numerals, ofList_spaced_map layout]

/-- A text with zeros in the place of its plus signs is read as the same date-time. -/
theorem ofWire_map_zeroForPlus {text : String} {dt : DateTime} (h : ofWire text = .ok dt) :
    ofWire (text.map Text.zeroForPlus) = .ok dt := by
  obtain ⟨layout, numerals, -, rfl⟩ := ofWire_eq_ok_iff.mp h
  obtain ⟨lower, upper, month, day⟩ := stored_bounds h
  have written := ofWire_wireSlices (holds_of_ofWire h)
  rw [wireSlices_stored layout numerals, ofList_spaced_map layout] at written
  rw [written, reread_of_le lower upper month day]

/-- Texts that are read as equal date-times differ in plus signs and zeros only. -/
theorem same_iff_map_zeroForPlus_eq {text other : String} {a b : DateTime}
    (ha : ofWire text = .ok a) (hb : ofWire other = .ok b) :
    a.same b = true ↔ text.map Text.zeroForPlus = other.map Text.zeroForPlus := by
  constructor
  · intro same
    have counts := (same_of_holds (holds_of_ofWire ha) (holds_of_ofWire hb)).mp same
    obtain ⟨-, -, -, rfl⟩ := ofWire_eq_ok_iff.mp ha
    obtain ⟨-, -, -, rfl⟩ := ofWire_eq_ok_iff.mp hb
    have written := (toWire_of_ofWire ha).symm.trans (counts ▸ toWire_of_ofWire hb)
    exact Except.ok.inj written
  · intro agree
    have read := (ofWire_map_zeroForPlus ha).symm.trans (agree ▸ ofWire_map_zeroForPlus hb)
    obtain rfl := Except.ok.inj read
    exact (same_of_holds (holds_of_ofWire ha) (holds_of_ofWire ha)).mpr rfl

/-- What is read is written with a zero in the place of each plus sign. So a text without one comes
back as it was, and any other in a form that is read as an equal date-time and comes back as it
was; and two texts are read as equal date-times exactly if they are written alike. -/
theorem toWire_of_outcome_parse {text : String} {dt : DateTime}
    (h : (parse (.str text)).outcome = .ok dt) :
    dt.toWire = .ok (text.map Text.zeroForPlus) ∧ (text.map Text.zeroForPlus).length = 19 ∧
      (text.map Text.zeroForPlus = text ↔ '+' ∉ text.toList) ∧
      (∃ back, (parse (.str (text.map Text.zeroForPlus))).outcome = .ok back ∧
        back.same dt = true ∧ back.toWire = .ok (text.map Text.zeroForPlus)) ∧
      ∀ other dt', (parse (.str other)).outcome = .ok dt' →
        (dt.same dt' = true ↔ text.map Text.zeroForPlus = other.map Text.zeroForPlus) := by
  rw [parse, outcome_parseText] at h
  have written := toWire_of_ofWire h
  refine ⟨written, ?_, ?_, ⟨dt, ?_, ?_, written⟩, ?_⟩
  · rw [← String.length_toList, String.toList_map, List.length_map, String.length_toList]
    exact (hasLayout_of_ofWire h).length
  · rw [String.ext_iff, String.toList_map, Text.map_zeroForPlus_eq_self_iff]
  · rw [parse, outcome_parseText, ofWire_map_zeroForPlus h]
  · exact (same_of_holds (holds_of_ofWire h) (holds_of_ofWire h)).mpr rfl
  · intro other dt' hother
    rw [parse, outcome_parseText] at hother
    exact same_iff_map_zeroForPlus_eq h hother

/-- A text with plus signs in three of its places. -/
theorem toWire_of_plus_signs :
    ∃ dt, (parse (.str "+020-+9-24T13:+1:00")).outcome = .ok dt ∧
      dt.toWire = .ok "0020-09-24T13:01:00" := by
  have read : (parse (.str "+020-+9-24T13:+1:00")).outcome =
      .ok (ofCounts (countsOf 20 8 23 13 1 0)) := rfl
  have zeros : "+020-+9-24T13:+1:00".map Text.zeroForPlus = "0020-09-24T13:01:00" := by
    apply String.ext
    rw [String.toList_map]
    decide
  exact ⟨_, read, zeros ▸ (toWire_of_outcome_parse read).1⟩

end DateTime

end CivilTime
