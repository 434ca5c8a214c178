import CivilTime.Numeral
import Mathlib.Algebra.Group.Nat.Defs
import Mathlib.Data.List.Basic
import Mathlib.Data.List.Induction

/-!
# Runs of digits

A run of digits of a known width is determined by its value (`decimalValue_inj`), and filling a
number with zeros gives the one run of the width that has its value (`zeroPadded_decimalValue`). The
sign of a number stands in front of the zeros, so a filled number is as wide as it has to be and no
wider (`length_zeroPadded`).

A numeral is a run of digits behind at most one plus sign (`IsNumeral`), and reading one gives the
value of its digits (`readNumeral_eq_ok_iff`), so a number that is written out is read again
(`readNumeral_naturalDigits`). Seen from the digits alone a plus sign is a zero :
filling the value of a numeral up to its width gives the numeral back with a zero in the place of
the sign (`zeroPadded_numeralValue`).
-/

namespace CivilTime

namespace Text

/-! ## Runs and their values -/

/-- Whether all characters of a run are digits. -/
def AreDigits (run : List Char) : Prop :=
  ∀ c ∈ run, c.isDigit = true

/-- The value of a single digit. -/
def digitValue (d : Char) : Nat :=
  d.toNat - '0'.toNat

theorem digitValue_lt {d : Char} (h : d.isDigit = true) : digitValue d < 10 := by
  have upper := (Char.isDigit_iff_toNat.mp h).2
  have nine : '9'.toNat = 57 := rfl
  have zero : '0'.toNat = 48 := rfl
  unfold digitValue
  omega

theorem digitValue_inj {c d : Char} (hc : c.isDigit = true) (hd : d.isDigit = true)
    (h : digitValue c = digitValue d) : c = d := by
  have lowerC := (Char.isDigit_iff_toNat.mp hc).1
  have lowerD := (Char.isDigit_iff_toNat.mp hd).1
  unfold digitValue at h
  exact Char.toNat_inj.mp (by omega)

theorem areDigits_concat {run : List Char} {d : Char} :
    AreDigits (run ++ [d]) ↔ AreDigits run ∧ d.isDigit = true := by
  simp only [AreDigits, List.mem_append, List.mem_singleton]
  constructor
  · intro h
    exact ⟨fun c hc => h c (Or.inl hc), h d (Or.inr rfl)⟩
  · rintro ⟨hrun, hd⟩ c (hc | rfl)
    · exact hrun c hc
    · exact hd

theorem areDigits_append {run rest : List Char} :
    AreDigits (run ++ rest) ↔ AreDigits run ∧ AreDigits rest := by
  simp only [AreDigits, List.mem_append, or_imp, forall_and]

theorem areDigits_naturalDigits (n : Nat) : AreDigits (naturalDigits n) :=
  fun _ h => isDigit_of_mem_naturalDigits h

theorem areDigits_replicate_zero (n : Nat) : AreDigits (List.replicate n '0') := by
  intro c hc
  rw [List.eq_of_mem_replicate hc]
  decide

theorem decimalValue_lt {run : List Char} (h : AreDigits run) :
    decimalValue run < 10 ^ run.length := by
  induction run using List.reverseRecOn with
  | nil => simp
  | append_singleton run d ih =>
    obtain ⟨hrun, hd⟩ := areDigits_concat.mp h
    have front := ih hrun
    have last := digitValue_lt hd
    rw [digitValue] at last
    rw [decimalValue_concat, List.length_append, List.length_singleton, Nat.pow_succ]
    omega

/-- Two runs of one width with the same value are the same run. -/
theorem decimalValue_inj {xs ys : List Char} (hx : AreDigits xs) (hy : AreDigits ys)
    (width : xs.length = ys.length) (h : decimalValue xs = decimalValue ys) : xs = ys := by
  induction xs using List.reverseRecOn generalizing ys with
  | nil => exact (List.length_eq_zero_iff.mp width.symm).symm
  | append_singleton xs c ih =>
    rcases List.eq_nil_or_concat' ys with rfl | ⟨ys, d, rfl⟩
    · simp at width
    · obtain ⟨hxs, hc⟩ := areDigits_concat.mp hx
      obtain ⟨hys, hd⟩ := areDigits_concat.mp hy
      rw [decimalValue_concat, decimalValue_concat, ← digitValue, ← digitValue] at h
      have ltC := digitValue_lt hc
      have ltD := digitValue_lt hd
      have last : c = d := digitValue_inj hc hd (by omega)
      have front : xs = ys := ih hxs hys (by simpa using width) (by omega)
      rw [last, front]

theorem decimalValue_replicate_append (n : Nat) (run : List Char) :
    decimalValue (List.replicate n '0' ++ run) = decimalValue run := by
  rw [decimalValue, Nat.ofDigitChars_append, Nat.ofDigitChars_replicate_zero, Nat.mul_zero]
  rfl

theorem length_naturalDigits_le_iff {n width : Nat} (h : 0 < width) :
    (naturalDigits n).length ≤ width ↔ n < 10 ^ width :=
  Nat.length_toDigits_le_iff (by decide) h

theorem tooLong_eq_false_iff (n : Int) :
    tooLong n = false ↔ (naturalDigits n.natAbs).length ≤ digitLimit := by
  rw [tooLong, decide_eq_false_iff_not, Nat.not_lt]

/-! ## Filling with zeros -/

theorem zeroPadded_natCast (width n : Nat) :
    zeroPadded width n =
      List.replicate (width - (naturalDigits n).length) '0' ++ naturalDigits n := by
  have sign : ¬(n : Int) < 0 := by omega
  simp only [zeroPadded, sign, if_false, Int.natAbs_natCast]

/-- A filled number is as wide as it has to be. -/
theorem length_zeroPadded (width : Nat) (n : Int) :
    (zeroPadded width n).length = max width (signedDigits n).length := by
  by_cases sign : n < 0 <;> simp [zeroPadded, signedDigits, sign] <;> omega

theorem length_zeroPadded_of_lt {width n : Nat} (hwidth : 0 < width) (h : n < 10 ^ width) :
    (zeroPadded width n).length = width := by
  have fits := (length_naturalDigits_le_iff hwidth).mpr h
  rw [zeroPadded_natCast, List.length_append, List.length_replicate]
  omega

theorem length_signedDigits_of_nonneg {n : Int} (h : 0 ≤ n) :
    (signedDigits n).length = (naturalDigits n.natAbs).length := by
  rw [signedDigits, if_neg (by omega)]

theorem length_signedDigits_of_neg {n : Int} (h : n < 0) :
    (signedDigits n).length = (naturalDigits n.natAbs).length + 1 := by
  rw [signedDigits, if_pos h, List.length_cons]

theorem areDigits_zeroPadded (width n : Nat) : AreDigits (zeroPadded width n) := by
  rw [zeroPadded_natCast]
  exact areDigits_append.mpr ⟨areDigits_replicate_zero _, areDigits_naturalDigits n⟩

@[simp] theorem decimalValue_zeroPadded (width n : Nat) :
    decimalValue (zeroPadded width n) = n := by
  rw [zeroPadded_natCast, decimalValue_replicate_append, decimalValue_naturalDigits]

/-- Filling the value of a run up to its width gives the run back. -/
theorem zeroPadded_decimalValue {run : List Char} (h : AreDigits run) (hne : run ≠ []) :
    zeroPadded run.length (decimalValue run) = run := by
  have width := length_zeroPadded_of_lt (List.length_pos_iff.mpr hne) (decimalValue_lt h)
  exact decimalValue_inj (areDigits_zeroPadded _ _) h width (decimalValue_zeroPadded _ _)

/-! ## Numerals -/

/-- Whether a text is a numeral : digits, at least one, behind at most one plus sign. -/
def IsNumeral (text : List Char) : Prop :=
  dropPlus text ≠ [] ∧ AreDigits (dropPlus text)

/-- The number a numeral stands for. -/
def numeralValue (text : List Char) : Nat :=
  decimalValue (dropPlus text)

/-- A plus sign as a zero, any other character as it is. -/
def zeroForPlus (c : Char) : Char :=
  if c = '+' then '0' else c

theorem length_dropPlus_le (text : List Char) : (dropPlus text).length ≤ text.length := by
  unfold dropPlus
  split <;> simp

theorem plus_not_mem_of_areDigits {run : List Char} (h : AreDigits run) : '+' ∉ run :=
  fun hmem => absurd (h '+' hmem) (by decide)

theorem dropPlus_of_areDigits {run : List Char} (h : AreDigits run) : dropPlus run = run := by
  unfold dropPlus
  split
  · exact absurd List.mem_cons_self (plus_not_mem_of_areDigits h)
  · rfl

theorem isNumeral_of_areDigits {run : List Char} (hne : run ≠ []) (h : AreDigits run) :
    IsNumeral run := by
  rw [IsNumeral, dropPlus_of_areDigits h]
  exact ⟨hne, h⟩

/-- A numeral is a run of digits, or one behind a plus sign. -/
theorem IsNumeral.cases {text : List Char} (h : IsNumeral text) :
    ∃ digits, digits ≠ [] ∧ AreDigits digits ∧ (text = digits ∨ text = '+' :: digits) := by
  refine ⟨dropPlus text, h.1, h.2, ?_⟩
  unfold dropPlus
  split
  · exact Or.inr rfl
  · exact Or.inl rfl

theorem numeralValue_lt {text : List Char} (h : IsNumeral text) :
    numeralValue text < 10 ^ text.length :=
  Nat.lt_of_lt_of_le (decimalValue_lt h.2)
    (Nat.pow_le_pow_right (by decide) (length_dropPlus_le text))

theorem isNumeral_zeroPadded {width : Nat} (n : Nat) (hwidth : 0 < width) :
    IsNumeral (zeroPadded width n) := by
  refine isNumeral_of_areDigits ?_ (areDigits_zeroPadded width n)
  rw [← List.length_pos_iff, length_zeroPadded]
  omega

@[simp] theorem numeralValue_zeroPadded (width n : Nat) :
    numeralValue (zeroPadded width n) = n := by
  rw [numeralValue, dropPlus_of_areDigits (areDigits_zeroPadded width n), decimalValue_zeroPadded]

theorem map_zeroForPlus_eq_self_iff {run : List Char} :
    run.map zeroForPlus = run ↔ '+' ∉ run := by
  induction run with
  | nil => simp
  | cons c run ih =>
    rw [List.map_cons, List.cons_eq_cons, ih, List.mem_cons, not_or]
    refine and_congr_left fun _ => ?_
    unfold zeroForPlus
    split_ifs with h
    · simp [h]
    · simpa using Ne.symm h

theorem map_zeroForPlus {run : List Char} (h : AreDigits run) : run.map zeroForPlus = run :=
  map_zeroForPlus_eq_self_iff.mpr (plus_not_mem_of_areDigits h)

/-- Filling the value of a numeral up to its width puts a zero in the place of the sign. -/
theorem zeroPadded_numeralValue {text : List Char} (h : IsNumeral text) :
    zeroPadded text.length (numeralValue text) = text.map zeroForPlus := by
  obtain ⟨digits, hne, hdigits, rfl | rfl⟩ := h.cases
  · rw [numeralValue, dropPlus_of_areDigits hdigits, zeroPadded_decimalValue hdigits hne,
      map_zeroForPlus hdigits]
  · have filled : AreDigits ('0' :: digits) :=
      areDigits_append.mpr ⟨areDigits_replicate_zero 1, hdigits⟩
    have value : decimalValue ('0' :: digits) = numeralValue ('+' :: digits) :=
      decimalValue_replicate_append 1 digits
    rw [← value, List.map_cons, map_zeroForPlus hdigits]
    exact zeroPadded_decimalValue filled (by simp)

theorem not_isNumeral_zeroPadded {n : Int} (h : n < 0) (width : Nat) :
    ¬IsNumeral (zeroPadded width n) := by
  rintro ⟨-, digits⟩
  rw [zeroPadded, if_pos h] at digits
  exact absurd (digits '-' (by simp [dropPlus])) (by decide)

theorem unsignedDigits?_of_isNumeral {text : List Char} (h : IsNumeral text) :
    unsignedDigits? text = some (dropPlus text) :=
  if_pos ⟨h.1, List.all_eq_true.mpr h.2⟩

theorem unsignedDigits?_of_not_isNumeral {text : List Char} (h : ¬IsNumeral text) :
    unsignedDigits? text = none :=
  if_neg fun holds => h ⟨holds.1, List.all_eq_true.mp holds.2⟩

end Text

/-! ## Reading numerals -/

open Text

theorem readNumeral_of_isNumeral {text : String} (h : IsNumeral text.toList)
    (short : (dropPlus text.toList).length ≤ digitLimit) :
    readNumeral text = .ok (numeralValue text.toList) := by
  simp only [readNumeral, unsignedDigits?_of_isNumeral h, if_neg (Nat.not_lt.mpr short)]
  rfl

theorem readNumeral_of_not_isNumeral {text : String} (h : ¬IsNumeral text.toList) :
    readNumeral text = .error (.dateTime (.notDecimal text)) := by
  simp only [readNumeral, unsignedDigits?_of_not_isNumeral h]

/-- Reading succeeds on numerals that are not too long, and gives the value of their digits. -/
theorem readNumeral_eq_ok_iff {text : String} {n : Nat} :
    readNumeral text = .ok n ↔ IsNumeral text.toList ∧
      (dropPlus text.toList).length ≤ digitLimit ∧ n = numeralValue text.toList := by
  by_cases numeral : IsNumeral text.toList
  · by_cases short : (dropPlus text.toList).length ≤ digitLimit
    · simp [readNumeral_of_isNumeral numeral short, numeral, short, eq_comm]
    · simp [readNumeral, unsignedDigits?_of_isNumeral numeral, Nat.not_le.mp short, short]
  · simp [readNumeral_of_not_isNumeral numeral, numeral]

/-- A number that is written out is read again. -/
theorem readNumeral_naturalDigits {n : Nat} (short : tooLong n = false) :
    readNumeral (String.ofList (naturalDigits n)) = .ok n := by
  have digits := areDigits_naturalDigits n
  have bare : dropPlus (naturalDigits n) = naturalDigits n := dropPlus_of_areDigits digits
  refine readNumeral_eq_ok_iff.mpr ?_
  rw [String.toList_ofList, numeralValue, bare, decimalValue_naturalDigits]
  exact ⟨isNumeral_of_areDigits Nat.toDigits_ne_nil digits, (tooLong_eq_false_iff n).mp short, rfl⟩

end CivilTime
