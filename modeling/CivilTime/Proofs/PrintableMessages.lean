import CivilTime.Proofs.FieldTexts
import CivilTime.Proofs.Refusals

/-!
# Messages of printable characters

Whatever a text holds that is refused, the message says so in printable characters
(`Text.AllPrintable`) : what is shown of the text is quoted, and the rest are fixed words and
numbers. This is so for each error that a check of a text on the wire gives
(`DateTime.allPrintable_of_fault?`) and for each ending of the reading of a field
(`Field.allPrintable_of_parse`).

No printable character ends a line (`Text.breaksLine_of_isPrintable`), so the record of a refusal is
one line of the log, and a text cannot forge another one (`DateTime.allPrintable_of_refused`).
-/

namespace CivilTime

namespace Text

/-! ## Printable texts -/

/-- Whether all characters of a text are printable. -/
def AllPrintable (text : String) : Prop :=
  ∀ c ∈ text.toList, isPrintable c = true

instance (text : String) : Decidable (AllPrintable text) :=
  List.decidableBAll (fun c : Char => isPrintable c = true) text.toList

theorem AllPrintable.append {s t : String} (hs : AllPrintable s) (ht : AllPrintable t) :
    AllPrintable (s ++ t) := by
  intro c hc
  rw [String.toList_append] at hc
  exact (List.mem_append.mp hc).elim (hs c) (ht c)

theorem allPrintable_quoted (text : String) : AllPrintable (quoted text) := by
  intro c hc
  rw [quoted, String.toList_ofList] at hc
  exact isPrintable_of_mem_quote hc

theorem isPrintable_of_isDigit {c : Char} (h : c.isDigit = true) : isPrintable c = true := by
  obtain ⟨lower, upper⟩ := Char.isDigit_iff_toNat.mp h
  have zero : '0'.toNat = 48 := rfl
  have nine : '9'.toNat = 57 := rfl
  exact isPrintable_of_ascii (by omega) (by omega)

theorem allPrintable_toString (n : Nat) : AllPrintable (toString n) := by
  intro c hc
  have digits : (toString n).toList = naturalDigits n := String.toList_ofList
  exact isPrintable_of_isDigit (isDigit_of_mem_naturalDigits (digits ▸ hc))

/-! ## Lines -/

/-- Whether a character ends a line or is a control character. -/
def breaksLine (c : Char) : Bool :=
  c.toNat < 0x20 || (0x7F ≤ c.toNat && c.toNat < 0xA0) || c.toNat = 0x2028 || c.toNat = 0x2029

/-- The lines of a text. -/
def lines (text : String) : List (List Char) :=
  text.toList.splitOnP breaksLine

theorem isPrintable_eq_false_of_mem {range : Nat × Nat} (h : range ∈ unprintableRanges) {c : Char}
    (lower : range.1 ≤ c.toNat) (upper : c.toNat ≤ range.2) (beyond : 0x7F ≤ c.toNat) :
    isPrintable c = false := by
  rw [isPrintable, if_neg (Nat.not_lt.mpr beyond), Bool.not_eq_false']
  exact List.any_eq_true.mpr ⟨range, h, by simp [lower, upper]⟩

theorem breaksLine_of_isPrintable {c : Char} (h : isPrintable c = true) : breaksLine c = false := by
  have controls : (0x7F, 0xA0) ∈ unprintableRanges := List.mem_cons_self
  have separators : (0x2028, 0x202F) ∈ unprintableRanges := by decide +kernel
  by_contra breaks
  have place : c.toNat < 0x20 ∨ (0x7F ≤ c.toNat ∧ c.toNat ≤ 0xA0) ∨
      (0x2028 ≤ c.toNat ∧ c.toNat ≤ 0x202F) := by
    simp only [breaksLine, Bool.not_eq_false, Bool.or_eq_true, Bool.and_eq_true,
      decide_eq_true_eq] at breaks
    omega
  rcases place with low | ⟨lower, upper⟩ | ⟨lower, upper⟩
  · simp [isPrintable, Nat.lt_trans low (by decide : 0x20 < 0x7F), Nat.not_le.mpr low] at h
  · rw [isPrintable_eq_false_of_mem controls lower upper lower] at h
    cases h
  · rw [isPrintable_eq_false_of_mem separators lower upper (by omega)] at h
    cases h

/-- A text of printable characters is one line. -/
theorem AllPrintable.lines_eq {text : String} (h : AllPrintable text) :
    lines text = [text.toList] :=
  List.splitOnP_eq_singleton fun c hc => breaksLine_of_isPrintable (h c hc)

end Text

open Text

/-! ## Errors of dates and times -/

namespace DateTimeError

theorem allPrintable_malformed (text : String) {reason : String} (h : AllPrintable reason) :
    AllPrintable (malformed (.str text) (.str reason)).message := by
  have opening : AllPrintable "Malformed date-time " := by decide
  have colon : AllPrintable ": " := by decide
  exact ((opening.append (allPrintable_quoted text)).append colon).append h

theorem allPrintable_wrongLength (text : String) (expected : Nat) :
    AllPrintable (wrongLength text expected).message := by
  have opening : AllPrintable "expected " := by decide
  have middle : AllPrintable " characters, got " := by decide
  exact allPrintable_malformed text
    (((opening.append (allPrintable_toString _)).append middle).append (allPrintable_toString _))

theorem allPrintable_wrongDelimiter (text : String) (expected : Char) (position : Nat)
    (found : Char) : AllPrintable (wrongDelimiter text expected position found).message := by
  have opening : AllPrintable "expected " := by decide
  have middle : AllPrintable " at position " := by decide
  have last : AllPrintable ", got " := by decide
  exact allPrintable_malformed text (((((opening.append (allPrintable_quoted _)).append
    middle).append (allPrintable_toString _)).append last).append (allPrintable_quoted _))

theorem allPrintable_notDecimal (text : String) : AllPrintable (notDecimal text).message := by
  have opening : AllPrintable "invalid literal for int() with base 10: " := by decide
  exact opening.append (allPrintable_quoted text)

theorem allPrintable_outOfRange (u : CalendarUnit) :
    AllPrintable (DateTime.outOfRange u).message := by
  cases u <;> decide

end DateTimeError

theorem ValueFault.allPrintable_tooLongToRead (digits : Nat) :
    AllPrintable (tooLongToRead digits).message := by
  have opening : AllPrintable "Exceeds the limit (" := by decide
  have limit : AllPrintable " digits) for integer string " := by decide
  have middle : AllPrintable "conversion: value has " := by decide
  have advice :
      AllPrintable " digits; use sys.set_int_max_str_digits() to increase the limit" := by decide
  exact (((((opening.append (allPrintable_toString _)).append limit).append middle).append
    (allPrintable_toString _)).append advice)

/-- Whatever text is not read as a field of a unit, it is refused in printable characters. -/
theorem Field.allPrintable_of_parse {u : CalendarUnit} {text : String} {cause : Failure}
    (h : parse (.standard u) (.str text) = .error cause) : AllPrintable cause.message := by
  cases parse_eq_iff_reading.mp h with
  | above => exact DateTimeError.allPrintable_outOfRange u
  | noNumeral => exact DateTimeError.allPrintable_notDecimal text
  | tooLong => exact ValueFault.allPrintable_tooLongToRead _

namespace DateTime

/-! ## Texts on the wire -/

/-- Every check of a text on the wire gives its error in printable characters. -/
theorem allPrintable_of_fault? {text : String} {check : Check} {e : DateTimeError}
    (h : check.fault? text = some e) : AllPrintable e.message := by
  cases check with
  | length =>
    rw [Check.fault?] at h
    split_ifs at h
    cases h
    exact DateTimeError.allPrintable_wrongLength text 19
  | delimiter place expected =>
    obtain ⟨found, -, h⟩ := Option.bind_eq_some_iff.mp h
    split_ifs at h
    cases h
    exact DateTimeError.allPrintable_wrongDelimiter text expected place found
  | numeral p =>
    rw [Check.fault?] at h
    split_ifs at h
    cases h
    exact DateTimeError.allPrintable_notDecimal _
  | bound p =>
    obtain ⟨u, -, h⟩ := Option.bind_eq_some_iff.mp h
    split_ifs at h
    cases h
    exact DateTimeError.allPrintable_outOfRange u
  | positive p =>
    obtain ⟨u, -, h⟩ := Option.bind_eq_some_iff.mp h
    split_ifs at h
    cases h
    exact DateTimeError.allPrintable_outOfRange u

theorem allPrintable_of_ofWire {text : String} {e : DateTimeError}
    (h : ofWire text = .error (.dateTime e)) : AllPrintable e.message := by
  obtain ⟨_, first, same⟩ := ofWire_eq_error_iff.mp h
  cases same
  obtain ⟨check, -, failed⟩ := List.exists_of_findSome?_eq_some first
  exact allPrintable_of_fault? failed

end DateTime

namespace LogRecord

/-- The record of a refusal is printable if its error is. -/
theorem allPrintable_rejected (text : String) {e : DateTimeError} (h : AllPrintable e.message) :
    AllPrintable (rejected text e).message ∧ AllPrintable (rejected text e).line := by
  have opening : AllPrintable "Rejected date-time " := by decide
  have colon : AllPrintable ": " := by decide
  have log : AllPrintable ("DEBUG:" ++ "datetime_primitives.date" ++ ":") := by decide
  have message : AllPrintable (rejected text e).message :=
    ((opening.append (allPrintable_quoted text)).append colon).append h
  exact ⟨message, log.append message⟩

end LogRecord

/-! ## Refused texts -/

/-- Whatever characters it holds, a text that is refused is refused in printable characters, as a
date-time and as a field of any unit, and none of them breaks a line. The record of a refused
date-time is one line of the log. -/
theorem DateTime.allPrintable_of_refused (text : String) :
    (∀ cause, (parse (.str text)).outcome = .error cause →
      AllPrintable cause.message ∧ (∀ c ∈ cause.message.toList, breaksLine c = false) ∧
      ∃ e r, cause = .dateTime e ∧ r = LogRecord.rejected text e ∧
        (parse (.str text)).log = [r] ∧ AllPrintable r.message ∧ AllPrintable r.line ∧
        lines r.line = [r.line.toList]) ∧
    ∀ u cause, Field.parse (.standard u) (.str text) = .error cause →
      AllPrintable cause.message ∧ ∀ c ∈ cause.message.toList, breaksLine c = false := by
  constructor
  · intro cause refused
    obtain ⟨e, rfl⟩ := exists_of_outcome_parse refused
    have error : AllPrintable e.message :=
      allPrintable_of_ofWire ((outcome_parseText text).symm.trans refused)
    obtain ⟨message, line⟩ := LogRecord.allPrintable_rejected text error
    refine ⟨error, fun c hc => breaksLine_of_isPrintable (error c hc), e, _, rfl, rfl, ?_,
      message, line, line.lines_eq⟩
    rw [parse, parseText_of_outcome_error refused]
  · intro u cause refused
    have error := Field.allPrintable_of_parse refused
    exact ⟨error, fun c hc => breaksLine_of_isPrintable (error c hc)⟩

/-- A text with a forged record after a newline is refused in one record, on one line. -/
theorem DateTime.lines_of_forgedRecord :
    (∃ r, (parse (.str "x\nDEBUG:a:b")).log = [r] ∧ lines r.line = [r.line.toList]) ∧
    ∃ cause, Field.parse (.standard .hour) (.str "1\u2028\n") = .error cause ∧
      AllPrintable cause.message := by
  have date := (allPrintable_of_refused "x\nDEBUG:a:b").1 _ rfl
  have hour := (allPrintable_of_refused "1\u2028\n").2 .hour
  obtain ⟨-, r, -, -, log, -, -, line⟩ := date.2.2
  exact ⟨⟨r, log, line⟩, _, rfl, (hour _ rfl).1⟩

end CivilTime
