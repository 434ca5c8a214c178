import CivilTime.Proofs.Reading

/-!
# Why a text is refused

Reading makes its checks of a text one after the other (`wireChecks`), and the first of them that
fails decides (`ofWire_eq_verdict`) : the length, the delimiters from left to right, the numerals
from left to right, each number against the maximum of its unit as soon as it is read, and only
then the zeros of month and day, which no maximum shuts out.

So a text is either read without a trace (`parseText_of_outcome_ok`), or refused with the error of
one check and with one record of it in the log (`parseText_of_outcome_error`). No other cause of
failure is left (`exists_of_outcome_parse`), since a slice is too short to be a numeral of too many
digits.
-/

namespace CivilTime

namespace Text

instance (run : List Char) : Decidable (AreDigits run) :=
  List.decidableBAll (fun c : Char => c.isDigit = true) run

instance (text : List Char) : Decidable (IsNumeral text) :=
  inferInstanceAs (Decidable (_ ∧ _))

end Text

namespace DateTime

/-! ## The checks in their order -/

/-- A check of a text on the wire. -/
inductive Check where
  | length
  /-- A delimiter stands at its place. -/
  | delimiter (place : Nat) (expected : Char)
  /-- The slice of a part is a numeral. -/
  | numeral (p : Part)
  /-- The number of a part is not above the maximum of its unit. -/
  | bound (p : Part)
  /-- The number of a part is not zero. -/
  | positive (p : Part)

/-- The error of a number outside the range of a unit. -/
def outOfRange (u : CalendarUnit) : DateTimeError :=
  .overflow (.str u.name) (.int u.max)

/-- The error of a text that fails a check. -/
def Check.fault? (text : String) : Check → Option DateTimeError
  | .length => if text.length = 19 then none else some (.wrongLength text 19)
  | .delimiter place expected =>
    (text.toList[place]?).bind fun found =>
      if found = expected then none else some (.wrongDelimiter text expected place found)
  | .numeral p =>
    if Text.IsNumeral (slicesOf text p) then none
    else some (.notDecimal (String.ofList (slicesOf text p)))
  | .bound p =>
    p.unit?.bind fun u => if wireNumbers text p ≤ u.max then none else some (outOfRange u)
  | .positive p =>
    p.unit?.bind fun u => if wireNumbers text p = 0 then some (outOfRange u) else none

/-- The checks of the layout, in the order they are made. -/
def layoutChecks : List Check :=
  [.length, .delimiter 4 '-', .delimiter 7 '-', .delimiter 10 'T', .delimiter 13 ':',
    .delimiter 16 ':']

/-- The checks of the numbers, in the order they are made. -/
def numberChecks : List Check :=
  [.numeral .year, .numeral .month, .bound .month, .numeral .day, .bound .day, .numeral .hour,
    .bound .hour, .numeral .minute, .bound .minute, .numeral .second, .bound .second,
    .positive .month, .positive .day]

/-- All checks, in the order they are made. -/
def wireChecks : List Check :=
  layoutChecks ++ numberChecks

/-- The error of the first of some checks that a text fails. -/
def firstFault? (text : String) (checks : List Check) : Option DateTimeError :=
  checks.findSome? (Check.fault? text)

theorem findSome?_cons_eq_or {α β : Type} (f : α → Option β) (a : α) (rest : List α) :
    (a :: rest).findSome? f = (f a).or (rest.findSome? f) := by
  cases h : f a <;> simp [h]

theorem firstFault?_cons (text : String) (check : Check) (rest : List Check) :
    firstFault? text (check :: rest) = (check.fault? text).or (firstFault? text rest) :=
  findSome?_cons_eq_or _ check rest

theorem firstFault?_append (text : String) (checks rest : List Check) :
    firstFault? text (checks ++ rest) = (firstFault? text checks).or (firstFault? text rest) :=
  List.findSome?_append

/-! ## Verdicts -/

/-- What is made of a text that may fail a check. -/
def verdict {α : Type} (fault? : Option DateTimeError) (a : α) : Attempt α :=
  match fault? with
  | none => .ok a
  | some e => .error (.dateTime e)

section

variable {α β : Type} {fault? : Option DateTimeError}

/-- Of two verdicts in sequence the first one goes before the second. -/
theorem verdict_bind {rest : Option DateTimeError} {a : α} {b : β} {f : α → Attempt β}
    (h : fault? = none → f a = verdict rest b) :
    (verdict fault? a >>= f) = verdict (fault?.or rest) b := by
  cases fault? with
  | none => exact h rfl
  | some e => rfl

theorem verdict_eq_ok_iff {a b : α} : verdict fault? a = .ok b ↔ fault? = none ∧ a = b := by
  cases fault? <;> simp [verdict]

theorem verdict_eq_error_iff {a : α} {cause : Failure} :
    verdict fault? a = .error cause ↔ ∃ e, fault? = some e ∧ cause = .dateTime e := by
  cases fault? <;> simp [verdict, eq_comm]

end

/-! ## The layout -/

theorem checkLayout_eq_verdict (text : String) :
    (checkLayout text).mapError .dateTime = verdict (firstFault? text layoutChecks) () := by
  have delimiterFault : firstFault? text (delimiters.map fun d => .delimiter d.1 d.2) =
      (wrongDelimiter? text).map fun d => .wrongDelimiter text d.2.1 d.1 d.2.2 := by
    rw [firstFault?, wrongDelimiter?, List.findSome?_map, List.map_findSome?]
    congr 1
    funext d
    cases h : text.toList[d.1]? with
    | none => simp [Check.fault?, h]
    | some found =>
      by_cases same : found = d.2 <;> simp [Check.fault?, h, same]
  have checks : layoutChecks = .length :: delimiters.map fun d => .delimiter d.1 d.2 := rfl
  rw [checks, firstFault?_cons, delimiterFault, checkLayout]
  by_cases length : text.length = wireLength
  · have passed : Check.length.fault? text = none := if_pos length
    rw [if_neg (not_not_intro length), passed]
    cases wrongDelimiter? text <;> rfl
  · have failed : Check.length.fault? text = some (.wrongLength text wireLength) := if_neg length
    rw [if_pos length, failed]
    rfl

theorem hasLayout_of_firstFault? {text : String} (h : firstFault? text layoutChecks = none) :
    HasLayout text := by
  have checked := checkLayout_eq_verdict text
  rw [h] at checked
  rw [← checkLayout_eq_ok_iff]
  cases layout : checkLayout text with
  | ok => rfl
  | error e => simp [layout, Except.mapError, verdict] at checked

/-! ## The numbers -/

/-- The number of a slice, if the slice is a numeral. -/
theorem readNumeral_eq_verdict {text : String} (h : HasLayout text) (p : Part) :
    readNumeral (String.ofList (slicesOf text p)) =
      verdict ((Check.numeral p).fault? text) (Text.numeralValue (slicesOf text p)) := by
  by_cases numeral : Text.IsNumeral (slicesOf text p)
  · have passed : (Check.numeral p).fault? text = none := if_pos numeral
    rw [readNumeral_slice (fit_slicesOf h) numeral, passed]
    rfl
  · have failed : (Check.numeral p).fault? text =
        some (.notDecimal (String.ofList (slicesOf text p))) := if_neg numeral
    rw [readNumeral_slice_of_not_isNumeral numeral, failed]
    rfl

theorem wireNumbers_nonneg (text : String) (p : Part) : 0 ≤ wireNumbers text p :=
  Int.natCast_nonneg _

/-- The field of a number, if the number is not above the maximum of the unit. -/
theorem tryFrom_eq_verdict (text : String) {p : Part} {u : CalendarUnit} (hu : p.unit? = some u) :
    Field.tryFrom (.standard u) (.int (wireNumbers text p)) =
      verdict ((Check.bound p).fault? text) ⟨.standard u, .int (wireNumbers text p)⟩ := by
  have lower := wireNumbers_nonneg text p
  rw [Field.tryFrom_standard_int, Check.fault?, hu, Option.bind_some]
  by_cases upper : wireNumbers text p ≤ u.max
  · rw [if_pos ⟨lower, upper⟩, if_pos upper]
    rfl
  · rw [if_neg fun range => upper range.2, if_neg upper]
    rfl

/-- The field of a slice, if the slice is a numeral and its number not above the maximum. -/
theorem parse_eq_verdict {text : String} (h : HasLayout text) {p : Part} {u : CalendarUnit}
    (hu : p.unit? = some u) :
    Field.parse (.standard u) (.str (String.ofList (slicesOf text p))) =
      verdict (firstFault? text [.numeral p, .bound p])
        ⟨.standard u, .int (wireNumbers text p)⟩ := by
  rw [Field.parse_str, readNumeral_eq_verdict h, firstFault?_cons, firstFault?_cons]
  refine verdict_bind fun _ => ?_
  rw [show firstFault? text [] = none from rfl, Option.or_none]
  exact tryFrom_eq_verdict text hu

/-- The field of a number less one, if the number is not zero. -/
theorem combine_eq_verdict {text : String} {p : Part} {u : CalendarUnit} (hu : p.unit? = some u)
    (upper : wireNumbers text p ≤ u.max) :
    Field.combine .sub ⟨.standard u, .int (wireNumbers text p)⟩ (.int 1) =
      verdict ((Check.positive p).fault? text)
        ⟨.standard u, .int (wireNumbers text p - 1)⟩ := by
  have lower := wireNumbers_nonneg text p
  rw [Field.combine_standard_int, Field.tryFrom_standard_int, Check.fault?, hu, Option.bind_some,
    Operation.onIntegers]
  by_cases zero : wireNumbers text p = 0
  · rw [if_neg (by omega), if_pos zero]
    rfl
  · rw [if_pos (by omega), if_neg zero]
    rfl

theorem le_max_of_firstFault? {text : String} {p : Part} {u : CalendarUnit} (hu : p.unit? = some u)
    (h : firstFault? text [.numeral p, .bound p] = none) : wireNumbers text p ≤ u.max := by
  rw [firstFault?_cons, firstFault?_cons, Option.or_eq_none_iff, Option.or_eq_none_iff] at h
  obtain ⟨-, bound, -⟩ := h
  by_contra above
  simp [Check.fault?, hu, above] at bound

/-- The slices of a text with the layout of the wire are read check by check. When month and day are
shifted, their maxima have been checked already. -/
theorem ofSlices_eq_verdict {text : String} (h : HasLayout text) :
    ofSlices (slicesOf text) =
      verdict (firstFault? text numberChecks) (ofCounts (stored (wireNumbers text))) := by
  have checks : firstFault? text numberChecks =
      ((Check.numeral .year).fault? text).or
        ((firstFault? text [.numeral .month, .bound .month]).or
        ((firstFault? text [.numeral .day, .bound .day]).or
        ((firstFault? text [.numeral .hour, .bound .hour]).or
        ((firstFault? text [.numeral .minute, .bound .minute]).or
        ((firstFault? text [.numeral .second, .bound .second]).or
        (((Check.positive .month).fault? text).or
        (((Check.positive .day).fault? text).or none))))))) := by
    simp only [numberChecks, firstFault?_cons, Option.or_assoc]
    rfl
  rw [checks, ofSlices, readNumeral_eq_verdict h, parse_eq_verdict h (p := .month) rfl,
    parse_eq_verdict h (p := .day) rfl, parse_eq_verdict h (p := .hour) rfl,
    parse_eq_verdict h (p := .minute) rfl, parse_eq_verdict h (p := .second) rfl]
  refine verdict_bind fun _ => verdict_bind fun month => verdict_bind fun day =>
    verdict_bind fun _ => verdict_bind fun _ => verdict_bind fun _ => ?_
  rw [combine_eq_verdict rfl (le_max_of_firstFault? rfl month),
    combine_eq_verdict rfl (le_max_of_firstFault? rfl day)]
  refine verdict_bind fun _ => verdict_bind fun _ => ?_
  simp [verdict, ofCounts, stored, Part.wireOffset, wireNumbers, numbers]

/-! ## Texts -/

/-- Reading makes all checks in their order, and the first that fails decides. -/
theorem ofWire_eq_verdict (text : String) :
    ofWire text =
      verdict (firstFault? text wireChecks) (ofCounts (stored (wireNumbers text))) := by
  rw [ofWire_eq, checkLayout_eq_verdict, wireChecks, firstFault?_append]
  exact verdict_bind fun layout => ofSlices_eq_verdict (hasLayout_of_firstFault? layout)

theorem ofWire_eq_error_iff {text : String} {cause : Failure} :
    ofWire text = .error cause ↔
      ∃ e, firstFault? text wireChecks = some e ∧ cause = .dateTime e := by
  rw [ofWire_eq_verdict, verdict_eq_error_iff]

theorem parseText_of_outcome_ok {text : String} {dt : DateTime}
    (h : (parse (.str text)).outcome = .ok dt) : parseText text = ⟨[], [], .ok dt⟩ := by
  rw [parse, outcome_parseText] at h
  rw [parseText, h]
  rfl

theorem parseText_of_outcome_error {text : String} {e : DateTimeError}
    (h : (parse (.str text)).outcome = .error (.dateTime e)) :
    parseText text = ⟨[], [.rejected text e], .error (.dateTime e)⟩ := by
  rw [parse, outcome_parseText] at h
  rw [parseText, h]
  rfl

/-- A text is refused for an error of dates and times, and for nothing else. -/
theorem exists_of_outcome_parse {text : String} {cause : Failure}
    (h : (parse (.str text)).outcome = .error cause) : ∃ e, cause = .dateTime e := by
  rw [parse, outcome_parseText] at h
  obtain ⟨e, -, rfl⟩ := ofWire_eq_error_iff.mp h
  exact ⟨e, rfl⟩

/-- What is no text is refused for its type, without a record. -/
theorem parse_of_not_str {v : Value} (h : ∀ text, v ≠ .str text) :
    parse v = ⟨[], [], .error (.type (.notText v.typeName))⟩ := by
  cases v with
  | str text => exact absurd rfl (h text)
  | _ => rfl

/-- A zero in the place of the month is found after all that is wrong with the time. -/
example : firstFault? "2020-00-05T25:00:00" wireChecks = some (outOfRange .hour) := by rfl

end DateTime

end CivilTime
