import CivilTime.Display
import CivilTime.Proofs.RoundTrip
import CivilTime.Proofs.Traversals

/-!
# Tables of date-times

A date-time that holds numbers can be shown in both tables if its year can be written at all : its
fields hold numbers of two digits, and one more than they hold has two digits still
(`Subject.table_of_holds`, `Subject.summary_of_holds`). A mapping can be shown if each of its
date-times can (`exists_overview`).
-/

namespace CivilTime

namespace Subject

/-- A number behind blanks, up to a width. -/
def blankText (width : Nat) (n : Int) : String :=
  String.ofList (Text.blankPadded width n)

/-- The line of a part that holds a number. -/
def shownLine (p : Part) (n : Int) : String :=
  match p.unit? with
  | none => tableLine "Year" (blankText 6 n) "-" (blankText 4 n)
  | some u =>
    tableLine u.name (blankText 6 n) (blankText 4 u.max) (blankText 4 (n + p.wireOffset))

theorem write_blankText {n : Int} (lower : 0 ≤ n) (upper : n < 100) (width : Nat) :
    (Filling.blanks width).write n = .ok (blankText width n) :=
  Filling.write_blanks (DateTime.length_naturalDigits_of_le lower (by omega)) width

theorem fieldLine_of_holds {f : Field} {u : CalendarUnit} {n offset : Int} (h : f.Holds u n)
    (lower : 0 ≤ offset) (upper : offset ≤ 1) : fieldLine f.toValue offset =
      .ok (tableLine u.name (blankText 6 n) (blankText 4 u.max) (blankText 4 (n + offset))) := by
  have bound := u.max_le
  have nonneg := h.nonneg
  have inside := h.le_max
  have name : f.toValue.requireDeclared = .ok (f, u.name) := by
    obtain ⟨kind, value⟩ := f
    obtain rfl : kind = .standard u := h.kind
    rfl
  have max : f.kind.requireMax = .ok (.int u.max) := by
    rw [h.kind]
    rfl
  have stored := write_blankText (n := n) nonneg (by omega) 6
  have wire := write_blankText (n := n + offset) (by omega) (by omega) 4
  have largest := write_blankText u.max_nonneg (by omega) 4
  simp only [fieldLine, name, Field.toInteger_of_holds h, stored, max, Value.format, largest, wire,
    Attempt.ok_bind]
  rfl

section

variable {dt : DateTime} {c : Part → Int}

theorem partLine_of_holds (h : dt.Holds c) {p : Part} (hp : p ≠ .year) :
    (Subject.dateTime dt).partLine p = .ok (shownLine p (c p)) := by
  obtain ⟨u, f, hu, hf, holds⟩ := h.exists_part hp
  obtain ⟨lower, upper⟩ := p.wireOffset_bounds
  rw [partLine, part, hf, Attempt.ok_bind, fieldLine_of_holds holds lower upper, shownLine, hu]

/-- The table of a date-time that holds numbers has a line for each of them. -/
theorem table_of_holds (h : dt.Holds c)
    (digits : (Text.naturalDigits (c .year).natAbs).length ≤ Text.digitLimit) :
    (Subject.dateTime dt).table = .ok ("\n".intercalate
      (titleLine :: ruleLine :: Part.all.map fun p => shownLine p (c p))) := by
  have year : yearLine dt.year = .ok (shownLine .year (c .year)) := by
    simp only [yearLine, Value.format_of_integer? h.year, Filling.write_blanks digits,
      Attempt.ok_bind]
    rfl
  have fields : ∀ p, p ≠ .year → (Subject.dateTime dt).partLine p = .ok (shownLine p (c p)) :=
    fun p => partLine_of_holds h
  simp only [table, part, DateTime.part, Attempt.ok_bind, year, List.mapM_cons, List.mapM_nil,
    fields .month (by decide), fields .day (by decide), fields .hour (by decide),
    fields .minute (by decide), fields .second (by decide), Attempt.pure_eq_ok]
  rfl

/-- The numbers of a date-time with the delimiters of the overview. -/
def summaryText (c : Part → Int) : String :=
  let digits (p : Part) : String := String.ofList (DateTime.wireSlices c p)
  digits .year ++ "/" ++ digits .month ++ "/" ++ digits .day ++ " " ++ digits .hour ++ ":" ++
    digits .minute ++ ":" ++ digits .second

theorem wirePart_of_holds (h : dt.Holds c) {p : Part} (hp : p ≠ .year) :
    (Subject.dateTime dt).wirePart p = .ok (String.ofList (DateTime.wireSlices c p)) := by
  obtain ⟨u, f, -, hf, holds⟩ := h.exists_part hp
  obtain ⟨lower, upper⟩ := h.wire_lt hp
  rw [wirePart, part, hf, Attempt.ok_bind, Value.toInteger_toValue,
    Field.toInteger_of_holds holds, Attempt.ok_bind, DateTime.write_wire lower upper,
    DateTime.wireSlices, Part.width_of_ne_year hp]

theorem summary_of_holds (h : dt.Holds c)
    (digits : (Text.naturalDigits (c .year).natAbs).length ≤ Text.digitLimit) :
    (Subject.dateTime dt).summary = .ok (summaryText c) := by
  have fields : ∀ p, p ≠ .year →
      (Subject.dateTime dt).wirePart p = .ok (String.ofList (DateTime.wireSlices c p)) :=
    fun p => wirePart_of_holds h
  simp only [summary, part, DateTime.part, Value.format_of_integer? h.year,
    Filling.write_zeros digits, fields .month (by decide), fields .day (by decide),
    fields .hour (by decide), fields .minute (by decide), fields .second (by decide),
    Attempt.ok_bind, Attempt.pure_eq_ok, summaryText, DateTime.wireSlices_year]

end

end Subject

/-- A mapping can be shown if each of its date-times can. -/
theorem exists_overview {entries : List (String × Subject)}
    (h : ∀ e ∈ entries, ∃ text, e.2.summary = .ok text) : ∃ text, overview entries = .ok text := by
  obtain ⟨lines, hlines⟩ : ∃ lines, overviewLines entries = .ok lines := by
    refine Attempt.exists_mapM_eq_ok fun e he => ?_
    obtain ⟨text, htext⟩ := h e he
    exact ⟨_, by rw [htext, Attempt.ok_bind]; rfl⟩
  exact ⟨_, by rw [overview, hlines, Attempt.ok_bind]; rfl⟩

theorem showOverview_of_ok {entries : List (String × Subject)} {table : String}
    (h : overview entries = .ok table) : showOverview entries = ⟨[table], [], .ok table⟩ := by
  rw [showOverview, h]
  rfl

end CivilTime
