import CivilTime.Proofs.RoundTrip
import Mathlib.Data.List.Lex
import Mathlib.Data.String.Basic

/-!
# Comparing what is written

Runs of digits of one width stand in the order of their values (`lt_iff_decimalValue_lt`), and texts
that have their delimiters at the same places stand in the order of their first slices that differ
(`spaced_lt_iff`). So date-times of years of four digits are sorted by sorting what they are written
as (`exists_toWire_lt_iff`).

Any other year takes more places than the four that are left for it, or has a sign in them, and the
sign is a delimiter, too. But behind the year a text has a fixed length, so it can be cut from its
end (`spaced_inj`), and what is left in front is filled up from one number only (`zeroPadded_inj`).
So two date-times are never written alike unless they are equal (`exists_toWire_eq_iff`).
-/

namespace CivilTime

namespace Text

/-! ## The order of runs -/

/-- Beginnings of one length go before what follows them. -/
theorem append_lt_append_iff {xs ys us vs : List Char} (h : xs.length = ys.length) :
    xs ++ us < ys ++ vs ↔ xs < ys ∨ xs = ys ∧ us < vs := by
  induction xs generalizing ys with
  | nil =>
    obtain rfl : ys = [] := List.length_eq_zero_iff.mp h.symm
    simp
  | cons x xs ih =>
    cases ys with
    | nil => cases h
    | cons y ys =>
      have rest := ih (Nat.succ.inj h)
      rw [List.cons_append, List.cons_append, List.cons_lt_cons_iff, rest, List.cons_lt_cons_iff,
        List.cons_eq_cons]
      tauto

theorem lt_iff_digitValue_lt {c d : Char} (hc : c.isDigit = true) (hd : d.isDigit = true) :
    c < d ↔ digitValue c < digitValue d := by
  have lowerC := (Char.isDigit_iff_toNat.mp hc).1
  have lowerD := (Char.isDigit_iff_toNat.mp hd).1
  have order : c < d ↔ c.toNat < d.toNat := Iff.rfl
  rw [order, digitValue, digitValue]
  omega

/-- Runs of digits of one width stand in the order of their values : one more digit at the end makes
the values ten times as large. -/
theorem lt_iff_decimalValue_lt {xs ys : List Char} (hx : AreDigits xs) (hy : AreDigits ys)
    (width : xs.length = ys.length) : xs < ys ↔ decimalValue xs < decimalValue ys := by
  induction xs using List.reverseRecOn generalizing ys with
  | nil =>
    obtain rfl : ys = [] := List.length_eq_zero_iff.mp width.symm
    simp
  | append_singleton xs c ih =>
    rcases List.eq_nil_or_concat' ys with rfl | ⟨ys, d, rfl⟩
    · simp at width
    · obtain ⟨hxs, hc⟩ := areDigits_concat.mp hx
      obtain ⟨hys, hd⟩ := areDigits_concat.mp hy
      have front : xs.length = ys.length := by simpa using width
      have same : xs = ys ↔ decimalValue xs = decimalValue ys :=
        ⟨congrArg decimalValue, decimalValue_inj hxs hys front⟩
      have ltC := digitValue_lt hc
      have ltD := digitValue_lt hd
      have last : [c] < [d] ↔ digitValue c < digitValue d := by
        rw [← lt_iff_digitValue_lt hc hd]
        simp [List.cons_lt_cons_iff]
      rw [append_lt_append_iff front, ih hxs hys front, same, last, decimalValue_concat,
        decimalValue_concat, ← digitValue, ← digitValue]
      omega

/-! ## Filled numbers -/

theorem zeroPadded_of_neg {n : Int} (h : n < 0) (width : Nat) : zeroPadded width n =
    '-' :: (List.replicate (width - ((naturalDigits n.natAbs).length + 1)) '0' ++
      naturalDigits n.natAbs) :=
  if_pos h

theorem areDigits_zeroPadded_iff {width : Nat} {n : Int} :
    AreDigits (zeroPadded width n) ↔ 0 ≤ n := by
  constructor
  · intro digits
    by_contra sign
    rw [zeroPadded_of_neg (by omega)] at digits
    exact absurd (digits '-' List.mem_cons_self) (by decide)
  · intro sign
    rw [← Int.toNat_of_nonneg sign]
    exact areDigits_zeroPadded width _

/-- A number is known from its digits, however they are filled up. Behind the sign of a negative one
there are digits again. -/
theorem zeroPadded_inj {width : Nat} {m n : Int} (h : zeroPadded width m = zeroPadded width n) :
    m = n := by
  have signM : AreDigits (zeroPadded width m) ↔ 0 ≤ m := areDigits_zeroPadded_iff
  have sign : 0 ≤ m ↔ 0 ≤ n := by
    rw [← signM, h, areDigits_zeroPadded_iff]
  rcases Int.lt_or_le m 0 with neg | nonneg
  · rw [zeroPadded_of_neg neg, zeroPadded_of_neg (by omega)] at h
    have value := congrArg decimalValue (List.cons.inj h).2
    rw [decimalValue_replicate_append, decimalValue_replicate_append, decimalValue_naturalDigits,
      decimalValue_naturalDigits] at value
    omega
  · have value := congrArg decimalValue h
    rw [← Int.toNat_of_nonneg nonneg, ← Int.toNat_of_nonneg (sign.mp nonneg),
      decimalValue_zeroPadded, decimalValue_zeroPadded] at value
    omega

/-- Numbers that are filled up to one width stand in the order of their digits. -/
theorem zeroPadded_lt_iff {width : Nat} {m n : Int} (hm : 0 ≤ m) (hn : 0 ≤ n)
    (h : (zeroPadded width m).length = (zeroPadded width n).length) :
    zeroPadded width m < zeroPadded width n ↔ m < n := by
  obtain ⟨m, rfl⟩ := Int.eq_ofNat_of_zero_le hm
  obtain ⟨n, rfl⟩ := Int.eq_ofNat_of_zero_le hn
  rw [lt_iff_decimalValue_lt (areDigits_zeroPadded _ _) (areDigits_zeroPadded _ _) h,
    decimalValue_zeroPadded, decimalValue_zeroPadded, Int.ofNat_lt]

end Text

namespace DateTime

/-! ## Slices in order -/

/-- Slices of equal widths stand in the order of the first of them that differ. -/
theorem spaced_lt_iff {xs ys : Part → List Char} (h : ∀ p, (xs p).length = (ys p).length) :
    spaced xs < spaced ys ↔ Part.all.map xs < Part.all.map ys := by
  simp [spaced, Part.all, Text.append_lt_append_iff, h, List.cons_lt_cons_iff]

/-- Behind the year slices of equal widths have a fixed length, so they can be cut from the end. -/
theorem spaced_inj {xs ys : Part → List Char}
    (h : ∀ p, p ≠ .year → (xs p).length = (ys p).length) (same : spaced xs = spaced ys) :
    xs = ys := by
  have month := h .month (by decide)
  have day := h .day (by decide)
  have hour := h .hour (by decide)
  have minute := h .minute (by decide)
  have second := h .second (by decide)
  obtain ⟨sameYear, same⟩ := List.append_inj' same
    (by simp only [List.length_cons, List.length_append, month, day, hour, minute, second])
  obtain ⟨sameMonth, same⟩ := List.append_inj (List.cons.inj same).2 month
  obtain ⟨sameDay, same⟩ := List.append_inj (List.cons.inj same).2 day
  obtain ⟨sameHour, same⟩ := List.append_inj (List.cons.inj same).2 hour
  obtain ⟨sameMinute, same⟩ := List.append_inj (List.cons.inj same).2 minute
  exact funext (Part.forall_iff.mpr
    ⟨sameYear, sameMonth, sameDay, sameHour, sameMinute, (List.cons.inj same).2⟩)

section

variable {a b : DateTime} {c d : Part → Int}

/-- The slice of a part is that of one number only. -/
theorem wireSlices_eq_iff {p : Part} : wireSlices c p = wireSlices d p ↔ c p = d p := by
  constructor
  · intro same
    have shifted := Text.zeroPadded_inj same
    omega
  · intro same
    rw [wireSlices, same, wireSlices]

/-- Numbers are written alike only if they are the same. -/
theorem spaced_wireSlices_inj (ha : a.Holds c) (hb : b.Holds d) :
    spaced (wireSlices c) = spaced (wireSlices d) ↔ c = d := by
  constructor
  · intro same
    have slices : wireSlices c = wireSlices d := spaced_inj (fun p hp => by
      rw [length_wireSlices ha hp, length_wireSlices hb hp]) same
    exact funext fun p => wireSlices_eq_iff.mp (congrFun slices p)
  · rintro rfl
    rfl

theorem Holds.wire_nonneg (h : a.Holds c) (lower : 0 ≤ c .year) (p : Part) :
    0 ≤ c p + p.wireOffset := by
  by_cases hp : p = .year
  · subst hp
    simpa [Part.wireOffset] using lower
  · exact (h.wire_lt hp).1

/-- Where the slices fit into their places they stand in the order of their numbers. -/
theorem wireSlices_lt_iff (ha : a.Holds c) (hb : b.Holds d) (lower : 0 ≤ c .year)
    (lower' : 0 ≤ d .year) (fit : Fit (wireSlices c)) (fit' : Fit (wireSlices d)) (p : Part) :
    wireSlices c p < wireSlices d p ↔ c p < d p := by
  have widths : (wireSlices c p).length = (wireSlices d p).length := (fit p).trans (fit' p).symm
  rw [wireSlices, wireSlices] at widths ⊢
  rw [Text.zeroPadded_lt_iff (ha.wire_nonneg lower p) (hb.wire_nonneg lower' p) widths]
  omega

theorem spaced_wireSlices_lt_iff (ha : a.Holds c) (hb : b.Holds d) (lower : 0 ≤ c .year)
    (upper : c .year ≤ 9999) (lower' : 0 ≤ d .year) (upper' : d .year ≤ 9999) :
    spaced (wireSlices c) < spaced (wireSlices d) ↔ Part.all.map c < Part.all.map d := by
  have fit : Fit (wireSlices c) := (fit_wireSlices_iff ha).mpr ⟨by omega, upper⟩
  have fit' : Fit (wireSlices d) := (fit_wireSlices_iff hb).mpr ⟨by omega, upper'⟩
  have order : ∀ p, wireSlices c p < wireSlices d p ↔ c p < d p :=
    wireSlices_lt_iff ha hb lower lower' fit fit'
  rw [spaced_lt_iff fun p => (fit p).trans (fit' p).symm]
  simp only [Part.all, List.map_cons, List.map_nil, List.cons_lt_cons_iff, List.not_lt_nil, order,
    wireSlices_eq_iff]

/-! ## Date-times -/

/-- Date-times of years of four digits are written as texts that stand in the order of their
numbers, the year first and the second last, and that are the same text only for equal
date-times. -/
theorem exists_toWire_lt_iff (ha : a.Holds c) (hb : b.Holds d) (lower : 0 ≤ c .year)
    (upper : c .year ≤ 9999) (lower' : 0 ≤ d .year) (upper' : d .year ≤ 9999) :
    ∃ text other, a.toWire = .ok text ∧ b.toWire = .ok other ∧
      (text < other ↔
        [c .year, c .month, c .day, c .hour, c .minute, c .second] <
          [d .year, d .month, d .day, d .hour, d .minute, d .second]) ∧
      (text = other ↔ a.same b = true) := by
  refine ⟨_, _, toWire_of_holds ha (length_naturalDigits_of_le lower upper),
    toWire_of_holds hb (length_naturalDigits_of_le lower' upper'), ?_, ?_⟩
  · rw [String.lt_iff_toList_lt, String.toList_ofList, String.toList_ofList]
    exact spaced_wireSlices_lt_iff ha hb lower upper lower' upper'
  · rw [String.ofList_inj, spaced_wireSlices_inj ha hb, same_of_holds ha hb]

/-- The last instant of a year, with all fields at their maxima. -/
def lastOf (year : Int) : DateTime :=
  ofCounts (countsOf year 12 32 24 60 60)

/-- The first instant of a year. -/
def firstOf (year : Int) : DateTime :=
  ofCounts (countsOf year 0 0 0 0 0)

theorem holds_lastOf (year : Int) : (lastOf year).Holds (countsOf year 12 32 24 60 60) := by
  have largest : ∀ u : CalendarUnit, (⟨.standard u, .int u.max⟩ : Field).Holds u u.max :=
    fun u => ⟨rfl, rfl, u.max_nonneg, Int.le_refl _⟩
  exact ⟨rfl, largest .month, largest .day, largest .hour, largest .minute, largest .second⟩

theorem holds_firstOf (year : Int) : (firstOf year).Holds (countsOf year 0 0 0 0 0) := by
  have least : ∀ u : CalendarUnit, (⟨.standard u, .int 0⟩ : Field).Holds u 0 :=
    fun u => ⟨rfl, rfl, Int.le_refl _, u.max_nonneg⟩
  exact ⟨rfl, least .month, least .day, least .hour, least .minute, least .second⟩

/-- The last instant of a year is written before the first one of the next, although the month and
the day are written past their maxima. -/
theorem toWire_lastOf_lt_toWire_firstOf :
    (lastOf 999).toWire = .ok "0999-13-33T24:60:60" ∧
      (firstOf 1000).toWire = .ok "1000-01-01T00:00:00" ∧
      "0999-13-33T24:60:60" < "1000-01-01T00:00:00" := by
  have last : (lastOf 999).toWire = .ok "0999-13-33T24:60:60" := rfl
  have first : (firstOf 1000).toWire = .ok "1000-01-01T00:00:00" := rfl
  obtain ⟨text, other, written, written', order, -⟩ :=
    exists_toWire_lt_iff (holds_lastOf 999) (holds_firstOf 1000) (by decide) (by decide) (by decide)
      (by decide)
  obtain rfl := Except.ok.inj (last.symm.trans written)
  obtain rfl := Except.ok.inj (first.symm.trans written')
  exact ⟨last, first, order.mpr (by decide)⟩

/-- Date-times of any years that can be written are written as the same text only if they are equal,
and each text has fifteen characters more than its year, for which at least four are taken. -/
theorem exists_toWire_eq_iff (ha : a.Holds c) (hb : b.Holds d)
    (digits : (Text.naturalDigits (c .year).natAbs).length ≤ 4300)
    (digits' : (Text.naturalDigits (d .year).natAbs).length ≤ 4300) :
    ∃ text other, a.toWire = .ok text ∧ b.toWire = .ok other ∧
      (text = other ↔ a.same b = true) ∧
      text.length = 15 + max 4 (Value.int (c .year)).literal.length ∧
      other.length = 15 + max 4 (Value.int (d .year)).literal.length := by
  refine ⟨_, _, toWire_of_holds ha digits, toWire_of_holds hb digits', ?_, ?_, ?_⟩
  · rw [String.ofList_inj, spaced_wireSlices_inj ha hb, same_of_holds ha hb]
  · rw [Value.literal, String.length_ofList, String.length_ofList, length_spaced_wireSlices ha]
  · rw [Value.literal, String.length_ofList, String.length_ofList, length_spaced_wireSlices hb]

/-- A sign takes a place, too, and cannot be mistaken for a delimiter. -/
theorem toWire_firstOf_ne_toWire_lastOf :
    (firstOf (-1000)).toWire = .ok "-1000-01-01T00:00:00" ∧
      (lastOf 10000).toWire = .ok "10000-13-33T24:60:60" ∧
      (firstOf (-1000)).same (lastOf 10000) = false ∧ "-1000-01-01T00:00:00".length = 20 := by
  have first : (firstOf (-1000)).toWire = .ok "-1000-01-01T00:00:00" := rfl
  have last : (lastOf 10000).toWire = .ok "10000-13-33T24:60:60" := rfl
  obtain ⟨text, other, written, written', same, length, -⟩ :=
    exists_toWire_eq_iff (holds_firstOf (-1000)) (holds_lastOf 10000) (by decide) (by decide)
  obtain rfl := Except.ok.inj (first.symm.trans written)
  obtain rfl := Except.ok.inj (last.symm.trans written')
  exact ⟨first, last, Bool.eq_false_iff.mpr fun equal => absurd (same.mpr equal) (by decide), length⟩

end

end DateTime

end CivilTime
