import CivilTime.Proofs.Tables
import CivilTime.Proofs.TextTables

/-!
# Overviews of many date-times

The wire and the overview write the same six texts of a date-time, in the same order, and differ in
the delimiters between them only (`DateTime.toWire_eq`, `DateTime.summary_eq`). This needs nothing
of the date-time : its year may be any value, and so may what its fields wrap.

So the overview of a mapping fails exactly if a date-time in it cannot be written on the wire, and
the first one that cannot decides on the cause (`Attempt.mapM_eq_error_iff`). Else it has a row for
each entry, and the key column is as wide as the longest key (`showOverview_subjectsOf`).
-/

namespace CivilTime

/-! ## One date-time -/

namespace DateTime

/-- The text of a part on the wire. -/
def wireText (dt : DateTime) : Part → Attempt String
  | .year => dt.year.format (.zeros 4)
  | p => do (Filling.zeros 2).write ((← (dt.part p).toInteger) + p.wireOffset)

/-- The texts of all parts on the wire, written in the order of the parts. -/
def wireTexts (dt : DateTime) : Attempt (Part → String) := do
  let year ← dt.wireText .year
  let month ← dt.wireText .month
  let day ← dt.wireText .day
  let hour ← dt.wireText .hour
  let minute ← dt.wireText .minute
  let second ← dt.wireText .second
  return fun
    | .year => year
    | .month => month
    | .day => day
    | .hour => hour
    | .minute => minute
    | .second => second

/-- Six texts with the delimiters of the wire. -/
def wireForm (n : Part → String) : String :=
  n .year ++ "-" ++ n .month ++ "-" ++ n .day ++ "T" ++ n .hour ++ ":" ++ n .minute ++ ":" ++
    n .second

/-- Six texts with the delimiters of the overview. -/
def summaryForm (n : Part → String) : String :=
  n .year ++ "/" ++ n .month ++ "/" ++ n .day ++ " " ++ n .hour ++ ":" ++ n .minute ++ ":" ++
    n .second

theorem toWire_eq (dt : DateTime) : dt.toWire = wireForm <$> dt.wireTexts := by
  simp only [toWire, wireTexts, wireText, part, Value.toInteger_toValue, Part.wireOffset,
    Int.add_zero, wireForm, map_bind, map_pure, bind_assoc]

theorem summary_eq (dt : DateTime) :
    (Subject.dateTime dt).summary = summaryForm <$> dt.wireTexts := by
  simp only [Subject.summary, Subject.wirePart, Subject.part, wireTexts, wireText, summaryForm,
    Attempt.ok_bind, map_bind, map_pure]
  rfl

theorem wireText_of_wireTexts {dt : DateTime} {n : Part → String} (h : dt.wireTexts = .ok n)
    (p : Part) : dt.wireText p = .ok (n p) := by
  obtain ⟨year, hyear, h⟩ := Attempt.bind_eq_ok_iff.mp h
  obtain ⟨month, hmonth, h⟩ := Attempt.bind_eq_ok_iff.mp h
  obtain ⟨day, hday, h⟩ := Attempt.bind_eq_ok_iff.mp h
  obtain ⟨hour, hhour, h⟩ := Attempt.bind_eq_ok_iff.mp h
  obtain ⟨minute, hminute, h⟩ := Attempt.bind_eq_ok_iff.mp h
  obtain ⟨second, hsecond, h⟩ := Attempt.bind_eq_ok_iff.mp h
  obtain rfl := Except.ok.inj h
  cases p <;> assumption

end DateTime

/-! ## Mappings of date-times -/

/-- Date-times under their keys as something to be shown. -/
def subjectsOf (entries : List (String × DateTime)) : List (String × Subject) :=
  entries.map fun e => (e.1, .dateTime e.2)

/-- The row of a key and the six texts of its date-time. -/
def rowOf (width : Nat) (key : String) (n : Part → String) : String :=
  key ++ Text.blanks (width - key.length) ++ "  " ++ DateTime.summaryForm n

/-- Whether a width is that of the longest key. Without any keys it is zero. -/
def IsKeyWidth (entries : List (String × DateTime)) (width : Nat) : Prop :=
  IsGreatest (insert 0 {n | ∃ e ∈ entries, e.1.length = n}) width

/-- Whether a row shows an entry : its key, blanks up to a width, two more of them, and the texts
that are written of its date-time on the wire. -/
def ShowsEntry (width : Nat) (e : String × DateTime) (row : String) : Prop :=
  ∃ n : Part → String, (∀ p, e.2.wireText p = .ok (n p)) ∧
    e.2.toWire = .ok (DateTime.wireForm n) ∧ row = rowOf width e.1 n

/-- Whether a cause is that of the first date-time of a mapping that cannot be written on the
wire. -/
def FirstUnwritten (entries : List (String × DateTime)) (cause : Failure) : Prop :=
  ∃ before e after, entries = before ++ e :: after ∧
    (∀ d ∈ before, ∃ text, d.2.toWire = .ok text) ∧ e.2.toWire = .error cause

variable {entries : List (String × DateTime)}

theorem isKeyWidth_keyWidth : IsKeyWidth entries (keyWidth (subjectsOf entries)) := by
  rw [keyWidth, subjectsOf, List.foldl_map]
  exact Report.isGreatest_foldl_max (fun e : String × DateTime => e.1.length) entries 0

theorem overviewLines_subjectsOf : overviewLines (subjectsOf entries) =
    entries.mapM fun e => rowOf (keyWidth (subjectsOf entries)) e.1 <$> e.2.wireTexts := by
  have row : ∀ e : String × DateTime,
      (do return Text.padRight (keyWidth (subjectsOf entries)) e.1 ++ "  " ++
          (← (Subject.dateTime e.2).summary) : Attempt String) =
        rowOf (keyWidth (subjectsOf entries)) e.1 <$> e.2.wireTexts := by
    intro e
    rw [DateTime.summary_eq, bind_pure_comp, Functor.map_map]
    rfl
  rw [overviewLines]
  conv_lhs => rw [subjectsOf]
  rw [List.mapM_map]
  exact congrArg (entries.mapM ·) (funext row)

theorem overviewLines_eq_error_iff {cause : Failure} :
    overviewLines (subjectsOf entries) = .error cause ↔ FirstUnwritten entries cause := by
  simp only [overviewLines_subjectsOf, Attempt.mapM_eq_error_iff, Attempt.map_eq_error_iff,
    Attempt.exists_map_eq_ok_iff, FirstUnwritten, DateTime.toWire_eq]

theorem forall₂_showsEntry {rows : List String}
    (h : overviewLines (subjectsOf entries) = .ok rows) :
    List.Forall₂ (ShowsEntry (keyWidth (subjectsOf entries))) entries rows := by
  rw [overviewLines_subjectsOf, Attempt.mapM_eq_ok_iff] at h
  refine h.imp fun e row hrow => ?_
  obtain ⟨n, written, rfl⟩ := Attempt.map_eq_ok_iff.mp hrow
  refine ⟨n, DateTime.wireText_of_wireTexts written, ?_, rfl⟩
  rw [DateTime.toWire_eq, written]
  rfl

theorem showOverview_of_error {entries : List (String × Subject)} {cause : Failure}
    (h : overviewLines entries = .error cause) : showOverview entries = ⟨[], [], .error cause⟩ := by
  rw [showOverview, overview, h]
  rfl

theorem showOverview_of_lines {entries : List (String × Subject)} {rows : List String}
    (h : overviewLines entries = .ok rows) : showOverview entries =
      ⟨["\n".intercalate rows], [], .ok ("\n".intercalate rows)⟩ := by
  refine showOverview_of_ok ?_
  rw [overview, h]
  rfl

theorem exists_overviewLines_eq_error_iff :
    (∃ cause, overviewLines (subjectsOf entries) = .error cause) ↔
      ∃ e ∈ entries, ∃ cause, e.2.toWire = .error cause := by
  simp only [overviewLines_subjectsOf, Attempt.exists_mapM_eq_error_iff, Attempt.map_eq_error_iff,
    DateTime.toWire_eq]

/-- A mapping of date-times is shown unless one of them cannot be written on the wire. Then nothing
is printed, and the cause is that of the first one that cannot. Else the text has a row for each
entry, in their order, and all that is printed is this text and a newline. -/
theorem showOverview_subjectsOf (entries : List (String × DateTime)) :
    ((∃ cause, (showOverview (subjectsOf entries)).outcome = .error cause) ↔
      ∃ e ∈ entries, ∃ cause, e.2.toWire = .error cause) ∧
    (∀ cause, (showOverview (subjectsOf entries)).outcome = .error cause ↔
      FirstUnwritten entries cause) ∧
    (∀ cause, (showOverview (subjectsOf entries)).outcome = .error cause →
      (showOverview (subjectsOf entries)).output = "") ∧
    ∀ text, (showOverview (subjectsOf entries)).outcome = .ok text →
      (showOverview (subjectsOf entries)).output = text ++ "\n" ∧
      ∃ width rows, IsKeyWidth entries width ∧ List.Forall₂ (ShowsEntry width) entries rows ∧
        text = "\n".intercalate rows := by
  rw [← exists_overviewLines_eq_error_iff]
  simp only [← overviewLines_eq_error_iff]
  cases lines : overviewLines (subjectsOf entries) with
  | error cause =>
    rw [showOverview_of_error lines]
    exact ⟨by simp, by simp, fun _ _ => rfl, nofun⟩
  | ok rows =>
    rw [showOverview_of_lines lines]
    refine ⟨by simp, by simp, nofun, fun text same => ?_⟩
    obtain rfl := Except.ok.inj same
    refine ⟨?_, keyWidth (subjectsOf entries), rows, isKeyWidth_keyWidth,
      forall₂_showsEntry lines, rfl⟩
    simp [Traced.output]

/-- A date-time that nobody checked : a negative year, a truth value, and numbers out of range. -/
def uncheckedInstant : DateTime where
  year := .int (-7)
  month := ⟨.standard .month, .bool true⟩
  day := ⟨.standard .day, .int (-4)⟩
  hour := ⟨.standard .hour, .int 100⟩
  minute := ⟨.standard .minute, .int 0⟩
  second := ⟨.standard .second, .int 61⟩

/-- A date-time that can be written, one with a text in the place of its minutes, and one without a
year. -/
def twiceUnwritable : List (String × DateTime) :=
  [("a", uncheckedInstant),
    ("b", { uncheckedInstant with minute := ⟨.standard .minute, .str "5"⟩ }),
    ("c", { uncheckedInstant with year := .null })]

/-- The text comes before the missing year, and numbers out of range are shown as they are. -/
theorem showOverview_twiceUnwritable :
    FirstUnwritten twiceUnwritable (.type (.conversion .integer "str")) ∧
    (showOverview (subjectsOf twiceUnwritable)).outcome =
      .error (.type (.conversion .integer "str")) ∧
    (showOverview (subjectsOf twiceUnwritable)).output = "" ∧
    (showOverview (subjectsOf [("a", uncheckedInstant), ("all", uncheckedInstant)])).output =
      "a    -007/02/-3 100:00:61\nall  -007/02/-3 100:00:61\n" := by
  have first : FirstUnwritten twiceUnwritable (.type (.conversion .integer "str")) :=
    ⟨[("a", uncheckedInstant)], _, _, rfl, by simpa using ⟨_, rfl⟩, rfl⟩
  obtain ⟨-, cause, silent, -⟩ := showOverview_subjectsOf twiceUnwritable
  have failed := (cause _).mpr first
  have text : (showOverview (subjectsOf
      [("a", uncheckedInstant), ("all", uncheckedInstant)])).outcome =
        .ok "a    -007/02/-3 100:00:61\nall  -007/02/-3 100:00:61" := rfl
  obtain ⟨-, -, -, shown⟩ :=
    showOverview_subjectsOf [("a", uncheckedInstant), ("all", uncheckedInstant)]
  exact ⟨first, failed, silent _ failed, (shown _ text).1⟩

end CivilTime
