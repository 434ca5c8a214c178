import CivilTime.Proofs.FieldTexts
import Mathlib.Algebra.BigOperators.Fin

/-!
# Numerals and their values

A run of digits is worth the sum of its digits, each times the power of ten of its place
(`Text.decimalValue_eq_sum`). Zeros in front of a run add nothing to it, and a digit behind it
multiplies it by ten and is added.

Reading a text as a number has one of three endings (`NumeralReading`) : the value of the digits it
spells, the refusal of too many of them, or the refusal of a text that spells none. So a number that
is written out is read again, and neither a sign nor zeros in front of the digits make a difference,
as long as there are not too many (`readDecimal_str_eq_iff`).
-/

namespace CivilTime

namespace Text

/-! ## The value of a run of digits -/

/-- The first digit of a run counts as often as the power of ten of what follows says. -/
theorem decimalValue_cons (d : Char) (run : List Char) :
    decimalValue (d :: run) = digitValue d * 10 ^ run.length + decimalValue run := by
  have first : 10 * 0 + (d.toNat - '0'.toNat) = digitValue d := Nat.zero_add _
  rw [decimalValue, Nat.ofDigitChars_cons, first, Nat.ofDigitChars_eq_ofDigitChars_zero,
    Nat.mul_comm]
  rfl

/-- The value of a run is the sum of its digits, each times the power of ten of its place. -/
theorem decimalValue_eq_sum (run : List Char) :
    decimalValue run =
      ∑ i : Fin run.length, digitValue run[i] * 10 ^ (run.length - (i + 1)) := by
  induction run with
  | nil => rfl
  | cons d run ih =>
    simp only [List.length_cons]
    rw [decimalValue_cons, Fin.sum_univ_succ, ih]
    simp

/-! ## Texts of the same number -/

/-- A text spells one run of digits only. -/
theorem Spells.unique {text : String} {digits others : List Char} (h : Spells text digits)
    (h' : Spells text others) : digits = others := by
  rw [← dropPlus_of_spells h, dropPlus_of_spells h']

/-- A digit behind a numeral is one more digit. -/
theorem Spells.push {text : String} {digits : List Char} (h : Spells text digits) {d : Char}
    (hd : d.isDigit = true) : Spells (text.push d) (digits ++ [d]) where
  nonempty := by simp
  areDigits := areDigits_concat.mpr ⟨h.areDigits, hd⟩
  sign := by
    rw [String.toList_push]
    rcases h.sign with bare | signed
    · exact .inl (by rw [bare])
    · exact .inr (by rw [signed, List.cons_append])

end Text

open Text

/-! ## The endings of reading a number -/

/-- The endings that reading a text as a number has. -/
inductive NumeralReading (text : String) : Attempt Nat → Prop
  /-- The text spells digits, and not too many of them. -/
  | value {digits : List Char} : Spells text digits → digits.length ≤ 4300 →
    NumeralReading text (.ok (decimalValue digits))
  /-- The text spells too many digits. -/
  | tooLong {digits : List Char} : Spells text digits → 4300 < digits.length →
    NumeralReading text (.error (.value (.tooLongToRead digits.length)))
  /-- The text spells no digits. -/
  | noNumeral : (∀ digits, ¬Spells text digits) →
    NumeralReading text (.error (.dateTime (.notDecimal text)))

/-- What is read is the ending. -/
theorem NumeralReading.readDecimal_eq {text : String} {r : Attempt Nat}
    (h : NumeralReading text r) : readDecimal (.str text) = r := by
  show readNumeral text = r
  cases h with
  | value h short => exact readNumeral_of_spells h short
  | tooLong h long => exact readNumeral_of_spells_of_lt h long
  | noNumeral none =>
    exact readNumeral_of_not_isNumeral (mt isNumeral_iff_exists_spells.mp (not_exists.mpr none))

/-- Every text has an ending. -/
theorem exists_numeralReading (text : String) : ∃ r, NumeralReading text r := by
  by_cases numeral : ∃ digits, Spells text digits
  · obtain ⟨digits, h⟩ := numeral
    rcases Nat.lt_or_ge 4300 digits.length with long | short
    · exact ⟨_, .tooLong h long⟩
    · exact ⟨_, .value h short⟩
  · exact ⟨_, .noNumeral (not_exists.mp numeral)⟩

theorem readDecimal_eq_iff_numeralReading {text : String} {r : Attempt Nat} :
    readDecimal (.str text) = r ↔ NumeralReading text r := by
  refine ⟨fun outcome => ?_, NumeralReading.readDecimal_eq⟩
  obtain ⟨ending, h⟩ := exists_numeralReading text
  rwa [← outcome, h.readDecimal_eq]

/-! ## Signs, zeros and further digits -/

theorem readDecimal_eq_ok_iff {text : String} {n : Nat} : readDecimal (.str text) = .ok n ↔
    ∃ digits, Spells text digits ∧ digits.length ≤ 4300 ∧ n = decimalValue digits := by
  rw [readDecimal_eq_iff_numeralReading]
  constructor
  · intro h
    cases h with
    | value h short => exact ⟨_, h, short, rfl⟩
  · rintro ⟨digits, h, short, rfl⟩
    exact .value h short

/-- Zeros in front of the digits do not count, and neither does a sign. -/
theorem readDecimal_zeros {text other : String} {digits : List Char} {zeros : Nat}
    (h : Spells text digits) (h' : Spells other (List.replicate zeros '0' ++ digits))
    (short : zeros + digits.length ≤ 4300) :
    readDecimal (.str other) = readDecimal (.str text) := by
  have width : (List.replicate zeros '0' ++ digits).length = zeros + digits.length := by
    rw [List.length_append, List.length_replicate]
  have filled := (NumeralReading.value h' (width ▸ short)).readDecimal_eq
  have bare := (NumeralReading.value h (by omega)).readDecimal_eq
  rw [filled, bare, decimalValue_replicate_append]

/-- One more digit multiplies by ten and is added, where there is room for it. -/
theorem readDecimal_push {text : String} {digits : List Char} (h : Spells text digits) {n : Nat}
    (read : readDecimal (.str text) = .ok n) {d : Char} (hd : d.isDigit = true) :
    readDecimal (.str (text.push d)) =
      if digits.length < 4300 then .ok (10 * n + digitValue d)
      else .error (.value (.tooLongToRead 4301)) := by
  obtain ⟨same, spelled, short, rfl⟩ := readDecimal_eq_ok_iff.mp read
  obtain rfl := spelled.unique h
  have width : (same ++ [d]).length = same.length + 1 := by simp
  have value : decimalValue (same ++ [d]) = 10 * decimalValue same + digitValue d :=
    decimalValue_concat same d
  split_ifs with room
  · rw [(NumeralReading.value (h.push hd) (by omega)).readDecimal_eq, value]
  · have full : (same ++ [d]).length = 4301 := by omega
    rw [(NumeralReading.tooLong (h.push hd) (by omega)).readDecimal_eq, full]

/-- A number that is written out is read again. -/
theorem exists_display_readDecimal {n : Nat} (short : (naturalDigits n).length ≤ 4300) :
    ∃ written, (Value.int n).display? = .ok written ∧ readDecimal (.str written) = .ok n := by
  have fits : tooLong n = false := (tooLong_eq_false_iff n).mpr short
  refine ⟨String.ofList (naturalDigits n), ?_, readNumeral_naturalDigits fits⟩
  rw [Value.display?, Value.oversized, fits]
  rfl

/-- A text is read as a number exactly if it is digits, at least one and not too many, behind at
most one plus sign, and the number is the sum of the digits, each times the power of ten of its
place. Too many digits are refused as such and by no error of dates and times. Every other text is
such an error, whose message is the one of its cause and quotes the text.

So a sign or zeros in front of the digits make no difference, one more digit multiplies by ten and
is added, as long as there are not too many, and a number that is written out is read again. -/
theorem readDecimal_str_eq_iff (text : String) :
    (∀ n, readDecimal (.str text) = .ok n ↔
      ∃ digits, Spells text digits ∧ digits.length ≤ 4300 ∧
        n = ∑ i : Fin digits.length, digitValue digits[i] * 10 ^ (digits.length - (i + 1))) ∧
    (∀ k, readDecimal (.str text) = .error (.value (.tooLongToRead k)) ↔
      ∃ digits, Spells text digits ∧ 4300 < digits.length ∧ k = digits.length) ∧
    (∀ e, readDecimal (.str text) = .error (.dateTime e) ↔
      (∀ digits, ¬Spells text digits) ∧ ∃ message, e = .parse [.str message] ∧
        e.message = DateTimeError.joinArguments [.str message] ∧
        e.message = "invalid literal for int() with base 10: " ++ quoted text) ∧
    (∀ digits other zeros, Spells text digits →
      Spells other (List.replicate zeros '0' ++ digits) → zeros + digits.length ≤ 4300 →
        readDecimal (.str other) = readDecimal (.str text)) ∧
    (∀ digits n d, Spells text digits → readDecimal (.str text) = .ok n → d.isDigit = true →
      readDecimal (.str (text.push d)) =
        if digits.length < 4300 then .ok (10 * n + digitValue d)
        else .error (.value (.tooLongToRead 4301))) ∧
    ∀ n : Nat, (naturalDigits n).length ≤ 4300 →
      ∃ written, (Value.int n).display? = .ok written ∧ readDecimal (.str written) = .ok n := by
  refine ⟨fun n => ?_, fun k => ?_, fun e => ?_, fun _ _ _ => readDecimal_zeros,
    fun _ _ _ h read => readDecimal_push h read, fun _ => exists_display_readDecimal⟩
  · simp only [← decimalValue_eq_sum]
    exact readDecimal_eq_ok_iff
  · rw [readDecimal_eq_iff_numeralReading]
    constructor
    · intro h
      cases h with
      | tooLong h long => exact ⟨_, h, long, rfl⟩
    · rintro ⟨digits, h, long, rfl⟩
      exact .tooLong h long
  · rw [readDecimal_eq_iff_numeralReading]
    constructor
    · intro h
      cases h with
      | noNumeral none => exact ⟨none, _, rfl, rfl, rfl⟩
    · rintro ⟨none, message, rfl, -, wording⟩
      obtain rfl : message = _ := wording
      exact .noNumeral none

/-- Seven behind a sign and two zeros is seven, and seventy-five with a five behind it. A line
break makes it no numeral, and too many zeros are no zero. -/
theorem readDecimal_signedSeven :
    readDecimal (.str "+007") = .ok 7 ∧
      readDecimal (.str "0000007") = readDecimal (.str "+007") ∧
      readDecimal (.str "+0075") = .ok 75 ∧
      (∃ e, readDecimal (.str "+007\n") = .error (.dateTime e) ∧
        e.message = "invalid literal for int() with base 10: '+007\\n'") ∧
      readDecimal (.str (String.ofList (List.replicate 4301 '0'))) =
        .error (.value (.tooLongToRead 4301)) := by
  have digits : AreDigits ['0', '0', '7'] := areDigits_zeroPadded 3 7
  have spelled : Spells "+007" ['0', '0', '7'] := ⟨by decide, digits, .inr rfl⟩
  have filled : Spells "0000007" (List.replicate 4 '0' ++ ['0', '0', '7']) :=
    ⟨by decide, areDigits_append.mpr ⟨areDigits_replicate_zero 4, digits⟩, .inl rfl⟩
  have broken : ∀ digits, ¬Spells "+007\n" digits := fun digits h =>
    absurd (h.isNumeral.2 '\n' (by decide)) (by decide)
  have width : (List.replicate 4301 '0').length = 4301 := List.length_replicate
  have exceeds : 4300 < (List.replicate 4301 '0').length := by
    rw [width]
    decide
  obtain ⟨value, -, -, zeros, push, -⟩ := readDecimal_str_eq_iff "+007"
  have seven : readDecimal (.str "+007") = .ok 7 :=
    (value 7).mpr ⟨_, spelled, by decide, by decide⟩
  obtain ⟨-, -, refused, -⟩ := readDecimal_str_eq_iff "+007\n"
  obtain ⟨-, long, -⟩ := readDecimal_str_eq_iff (String.ofList (List.replicate 4301 '0'))
  refine ⟨seven, zeros _ _ 4 spelled filled (by decide), push _ 7 '5' spelled seven (by decide),
    ⟨_, (refused (.notDecimal "+007\n")).mpr ⟨broken, _, rfl, rfl, rfl⟩, by decide⟩,
    (long 4301).mpr ⟨_, spells_zeros (by decide), exceeds, width.symm⟩⟩

end CivilTime
