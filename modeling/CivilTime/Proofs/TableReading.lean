import CivilTime.Proofs.SixNumbers
import CivilTime.Proofs.Tables
import CivilTime.Proofs.WireOrder
import Mathlib.Data.List.TakeWhile

/-!
# Tables read back

An integer that is written as text is read as the same integer (`readInteger_signedDigits`), and
blanks around a word do not matter when a line is cut into words (`Text.words_tableLine`). So each
line of the table of a date-time is cut into the four cells it was made of, however wide the year
is, and the numbers in them are those that are stored and those that stand on the wire
(`Subject.tableCells_tableText`).

The stored numbers make the date-time again, so two date-times have the same table only if they are
equal (`Subject.showTable_readsBack`).
-/

namespace CivilTime

/-! ## Integers written and read -/

namespace Text

theorem toAscii_of_lt {c : Char} (h : c.toNat < 0x7F) : toAscii c = c :=
  if_pos h

theorem toNat_lt_of_isDigit {c : Char} (h : c.isDigit = true) : c.toNat < 0x7F := by
  have upper := (Char.isDigit_iff_toNat.mp h).2
  have nine : '9'.toNat = 57 := rfl
  omega

theorem map_toAscii_of_areDigits {run : List Char} (h : AreDigits run) : run.map toAscii = run := by
  conv_rhs => rw [← List.map_id run]
  exact List.map_congr_left fun c hc => toAscii_of_lt (toNat_lt_of_isDigit (h c hc))

theorem isAsciiBlank_of_isDigit {c : Char} (h : c.isDigit = true) : isAsciiBlank c = false := by
  have lower := (Char.isDigit_iff_toNat.mp h).1
  have zero : '0'.toNat = 48 := rfl
  have blank : c ≠ ' ' := by
    rintro rfl
    cases h
  simp [isAsciiBlank, blank]
  omega

theorem ungroupedDigits?_of_areDigits {run : List Char} (hne : run ≠ []) (h : AreDigits run) :
    ungroupedDigits? run = some run := by
  induction run with
  | nil => exact absurd rfl hne
  | cons d rest ih =>
    obtain ⟨hd, hrest⟩ := List.forall_mem_cons.mp h
    cases rest with
    | nil => simp [ungroupedDigits?, hd]
    | cons e rest =>
      have he : e ≠ '_' := by
        rintro rfl
        exact absurd (hrest '_' List.mem_cons_self) (by decide)
      simp [ungroupedDigits?, hd, he, ih (by simp) hrest]

theorem splitSign_of_areDigits {run : List Char} (h : AreDigits run) :
    splitSign run = (false, run) := by
  unfold splitSign
  split
  · exact absurd (h '-' List.mem_cons_self) (by decide)
  · exact absurd (h '+' List.mem_cons_self) (by decide)
  · rfl

/-- Digits behind a sign are read as a whole. -/
theorem leadingInteger?_of_splitSign {text run : List Char} {negative : Bool}
    (plain : (text.map toAscii).dropWhile isAsciiBlank = text)
    (sign : splitSign text = (negative, run)) (hne : run ≠ []) (h : AreDigits run) :
    leadingInteger? text = some ⟨negative, run, []⟩ := by
  have parts : ∀ c ∈ run, isNumeralPart c = true := fun c hc => by simp [isNumeralPart, h c hc]
  rw [leadingInteger?, plain, sign]
  simp only [List.takeWhile_eq_self_iff.mpr parts, List.dropWhile_eq_nil_iff.mpr parts,
    ungroupedDigits?_of_areDigits hne h, Option.map_some]

theorem leadingInteger?_of_areDigits {run : List Char} (hne : run ≠ []) (h : AreDigits run) :
    leadingInteger? run = some ⟨false, run, []⟩ := by
  refine leadingInteger?_of_splitSign ?_ (splitSign_of_areDigits h) hne h
  obtain ⟨d, rest, rfl⟩ := List.exists_cons_of_ne_nil hne
  rw [map_toAscii_of_areDigits h,
    List.dropWhile_cons_of_neg (by simp [isAsciiBlank_of_isDigit (h d List.mem_cons_self)])]

theorem leadingInteger?_minus {run : List Char} (hne : run ≠ []) (h : AreDigits run) :
    leadingInteger? ('-' :: run) = some ⟨true, run, []⟩ := by
  refine leadingInteger?_of_splitSign ?_ rfl hne h
  rw [List.map_cons, map_toAscii_of_areDigits h]
  rfl

theorem leadingInteger?_signedDigits (n : Int) :
    leadingInteger? (signedDigits n) = some ⟨n < 0, naturalDigits n.natAbs, []⟩ := by
  have digits := areDigits_naturalDigits n.natAbs
  have hne : naturalDigits n.natAbs ≠ [] := Nat.toDigits_ne_nil
  rw [signedDigits]
  split_ifs with sign
  · rw [leadingInteger?_minus hne digits, decide_eq_true sign]
  · rw [leadingInteger?_of_areDigits hne digits, decide_eq_false sign]

/-- What stands in the text of an integer is a minus sign or a digit. -/
theorem not_mem_signedDigits {c : Char} (sign : c ≠ '-') (digit : c.isDigit = false) (n : Int) :
    c ∉ signedDigits n := by
  have digits : c ∉ naturalDigits n.natAbs := fun hc => by
    rw [isDigit_of_mem_naturalDigits hc] at digit
    cases digit
  rw [signedDigits]
  split
  · simp [sign, digits]
  · exact digits

theorem signedDigits_ne_nil (n : Int) : signedDigits n ≠ [] := by
  rw [signedDigits]
  split
  · exact List.cons_ne_nil _ _
  · exact Nat.toDigits_ne_nil

end Text

/-- An integer that is written is read again. -/
theorem readInteger_signedDigits {n : Int} (short : Text.tooLong n = false) :
    readInteger (String.ofList (Text.signedDigits n)) = .ok n := by
  have fits := Nat.not_lt.mpr ((Text.tooLong_eq_false_iff n).mp short)
  have size : (if n < 0 then -(n.natAbs : Int) else n.natAbs) = n := by
    split <;> omega
  rw [readInteger, String.toList_ofList, Text.leadingInteger?_signedDigits]
  simp only [fits, Text.LeadingInteger.isWhole, List.all_nil, if_false, if_true,
    Text.decimalValue_naturalDigits, decide_eq_true_eq, size]

/-! ## Words of a line -/

namespace Text

/-- The words of a line : what stands between blanks. -/
def words (line : List Char) : List String :=
  ((line.splitOn ' ').filter (· ≠ [])).map String.ofList

theorem words_append_blank (first rest : List Char) :
    words (first ++ ' ' :: rest) = words first ++ words rest := by
  simp only [words, List.splitOn_append_cons_self, List.filter_append, List.map_append]

@[simp] theorem words_nil : words [] = [] := rfl

theorem words_of_not_mem {word : List Char} (hne : word ≠ []) (h : ' ' ∉ word) :
    words word = [String.ofList word] := by
  simp [words, List.splitOn_eq_singleton h, hne]

theorem words_blanks_append (n : Nat) (rest : List Char) :
    words (List.replicate n ' ' ++ rest) = words rest := by
  induction n with
  | zero => rfl
  | succ n ih => exact (words_append_blank [] _).trans ih

theorem words_append_blanks (n : Nat) (first : List Char) :
    words (first ++ List.replicate n ' ') = words first := by
  cases n with
  | zero => rw [List.replicate_zero, List.append_nil]
  | succ n =>
    have rest : words (List.replicate n ' ') = [] := by
      rw [← List.append_nil (List.replicate n ' '), words_blanks_append, words_nil]
    rw [List.replicate_succ, words_append_blank, rest, List.append_nil]

theorem words_append_gap (first rest : List Char) :
    words (first ++ "  ".toList ++ rest) = words first ++ words rest := by
  have gap : first ++ "  ".toList ++ rest = first ++ ' ' :: (List.replicate 1 ' ' ++ rest) := by
    simp
  rw [gap, words_append_blank, words_blanks_append]

end Text

/-! ## Cells of a table -/

/-- The four cells of a line. -/
structure Cells where
  name : String
  stored : String
  max : String
  wire : String

/-- The cells of a line from left to right. -/
def Cells.toList (c : Cells) : List String :=
  [c.name, c.stored, c.max, c.wire]

namespace Subject

/-- The lines of a table under its titles, cut into words. -/
def tableCells (table : String) : List (List String) :=
  ((table.toList.splitOn '\n').drop 2).map Text.words

/-- The name of a part as it stands in a table. -/
def label (p : Part) : String :=
  (p.unit?.map CalendarUnit.name).getD "Year"

/-- The cells of a part that holds a number. -/
def cellsOf (p : Part) (n : Int) : Cells where
  name := label p
  stored := (Value.int n).literal
  max := (p.unit?.map fun u => (Value.int u.max).literal).getD "-"
  wire := (Value.int (n + p.wireOffset)).literal

theorem words_tableLine (name stored max wire : String) :
    Text.words (tableLine name stored max wire).toList = Text.words name.toList ++
      Text.words stored.toList ++ Text.words max.toList ++ Text.words wire.toList := by
  simp only [tableLine, Text.padRight, Text.padLeft, String.toList_append, Text.toList_blanks,
    Text.words_append_gap, Text.words_append_blanks, Text.words_blanks_append]

theorem newline_not_mem_tableLine {name stored max wire : String} (hname : '\n' ∉ name.toList)
    (hstored : '\n' ∉ stored.toList) (hmax : '\n' ∉ max.toList) (hwire : '\n' ∉ wire.toList) :
    '\n' ∉ (tableLine name stored max wire).toList := by
  simp [tableLine, Text.padRight, Text.padLeft, hname, hstored, hmax, hwire]

theorem words_blankText (width : Nat) (n : Int) :
    Text.words (blankText width n).toList = [(Value.int n).literal] := by
  rw [blankText, String.toList_ofList, Text.blankPadded, Text.words_blanks_append,
    Text.words_of_not_mem (Text.signedDigits_ne_nil n)
      (Text.not_mem_signedDigits (by decide) (by decide) n),
    Value.literal]

theorem newline_not_mem_blankText (width : Nat) (n : Int) :
    '\n' ∉ (blankText width n).toList := by
  simp [blankText, Text.blankPadded, Text.not_mem_signedDigits]

theorem shownLine_eq (p : Part) (n : Int) : shownLine p n =
    tableLine (label p) (blankText 6 n) ((p.unit?.map fun u => blankText 4 u.max).getD "-")
      (blankText 4 (n + p.wireOffset)) := by
  cases p <;> simp [shownLine, label, Part.unit?, Part.wireOffset]

theorem words_shownLine (p : Part) (n : Int) :
    Text.words (shownLine p n).toList = (cellsOf p n).toList := by
  have name : Text.words (label p).toList = [label p] := by cases p <;> decide
  have max : Text.words ((p.unit?.map fun u => blankText 4 u.max).getD "-").toList =
      [(cellsOf p n).max] := by
    have mark : Text.words "-".toList = ["-"] := by decide
    rw [cellsOf]
    cases p.unit? with
    | none => exact mark
    | some u => exact words_blankText 4 u.max
  rw [shownLine_eq, words_tableLine, words_blankText, words_blankText, name, max]
  rfl

theorem newline_not_mem_shownLine (p : Part) (n : Int) : '\n' ∉ (shownLine p n).toList := by
  have name : '\n' ∉ (label p).toList := by cases p <;> decide
  have max : '\n' ∉ ((p.unit?.map fun u => blankText 4 u.max).getD "-").toList := by
    cases p.unit? with
    | none => decide
    | some u => exact newline_not_mem_blankText 4 u.max
  rw [shownLine_eq]
  exact newline_not_mem_tableLine name (newline_not_mem_blankText 6 n) max
    (newline_not_mem_blankText 4 _)

/-- The text of the table of some numbers. -/
def tableText (c : Part → Int) : String :=
  "\n".intercalate (titleLine :: ruleLine :: Part.all.map fun p => shownLine p (c p))

theorem splitOn_tableText (c : Part → Int) : (tableText c).toList.splitOn '\n' =
    (titleLine :: ruleLine :: Part.all.map fun p => shownLine p (c p)).map String.toList := by
  rw [tableText, String.toList_intercalate]
  refine List.splitOn_intercalate '\n' ?_ (by simp)
  have title : '\n' ∉ titleLine.toList := by decide
  have rule : '\n' ∉ ruleLine.toList := by decide
  simp [title, rule, newline_not_mem_shownLine]

/-- A table is cut into the cells it was made of. -/
theorem tableCells_tableText (c : Part → Int) :
    tableCells (tableText c) = Part.all.map fun p => (cellsOf p (c p)).toList := by
  rw [tableCells, splitOn_tableText]
  simp [words_shownLine, Function.comp_def]

section

variable {dt : DateTime} {c : Part → Int}

/-- All numbers of a date-time can be written if its year can be, as they are stored and as they
stand on the wire. -/
theorem tooLong_eq_false_of_holds (h : dt.Holds c)
    (digits : (Text.naturalDigits (c .year).natAbs).length ≤ Text.digitLimit) (p : Part) :
    Text.tooLong (c p) = false ∧ Text.tooLong (c p + p.wireOffset) = false := by
  simp only [Text.tooLong_eq_false_iff]
  by_cases year : p = .year
  · subst year
    have offset : c .year + Part.wireOffset .year = c .year := Int.add_zero _
    rw [offset]
    exact ⟨digits, digits⟩
  · obtain ⟨u, f, -, -, holds⟩ := h.exists_part year
    obtain ⟨lower, upper⟩ := h.wire_lt year
    have offset := p.wireOffset_bounds
    exact ⟨DateTime.length_naturalDigits_of_le holds.nonneg (by omega),
      DateTime.length_naturalDigits_of_le lower (by omega)⟩

/-- Only equal numbers make the same table. -/
theorem tableText_inj {d : Part → Int} (short : ∀ p, Text.tooLong (c p) = false)
    (short' : ∀ p, Text.tooLong (d p) = false) : tableText c = tableText d ↔ c = d := by
  refine ⟨fun same => funext fun p => ?_, congrArg tableText⟩
  have cells := congrArg tableCells same
  rw [tableCells_tableText, tableCells_tableText] at cells
  have stored : (Value.int (c p)).literal = (Value.int (d p)).literal := by
    have lines := List.map_inj_left.mp cells p (by cases p <;> decide)
    exact (List.cons.inj (List.cons.inj lines).2).1
  have read := (readInteger_signedDigits (short p)).symm.trans
    ((congrArg readInteger stored).trans (readInteger_signedDigits (short' p)))
  exact Except.ok.inj read

theorem showTable_of_holds (h : dt.Holds c)
    (digits : (Text.naturalDigits (c .year).natAbs).length ≤ Text.digitLimit) :
    (Subject.dateTime dt).showTable = ⟨[tableText c], [], .ok (tableText c)⟩ := by
  rw [showTable, table_of_holds h digits]
  rfl

/-- The table of a date-time whose year has no more than 4300 digits is printed, and read back : it
has eight lines, the last six of which are cut into four cells each; the stored numbers make the
same date-time, and the numbers of the wire are those that are written on it, up to the zeros in
front of them. So two date-times have the same table exactly if they are equal. -/
theorem showTable_readsBack (h : dt.Holds c)
    (digits : (Text.naturalDigits (c .year).natAbs).length ≤ 4300) :
    (∃ text, (Subject.dateTime dt).showTable.outcome = .ok text ∧
      (Subject.dateTime dt).showTable.output = text ++ "\n" ∧
      (text.toList.splitOn '\n').length = 8 ∧
      ∃ cells : Part → Cells, tableCells text = Part.all.map (fun p => (cells p).toList) ∧
        (∃ stored : Part → Int, (∀ p, readInteger (cells p).stored = .ok (stored p)) ∧
          ∃ back, DateTime.tryNewOf (Part.all.map fun p => .int (stored p)) = .ok back ∧
            back.same dt = true) ∧
        ∃ wire : Part → Int, (∀ p, readInteger (cells p).wire = .ok (wire p)) ∧
          dt.toWire = .ok (String.ofList
            (DateTime.spaced fun p => Text.zeroPadded p.width (wire p)))) ∧
    ∀ {other : DateTime} {d : Part → Int}, other.Holds d →
      (Text.naturalDigits (d .year).natAbs).length ≤ 4300 →
        ((Subject.dateTime dt).table = (Subject.dateTime other).table ↔ dt.same other = true) := by
  have short := tooLong_eq_false_of_holds h digits
  constructor
  · refine ⟨tableText c, ?_, ?_, ?_, fun p => cellsOf p (c p), tableCells_tableText c,
      ⟨c, fun p => readInteger_signedDigits (short p).1, _, DateTime.tryNewOf_of_holds h,
        DateTime.same_ofCounts h⟩,
      fun p => c p + p.wireOffset, fun p => readInteger_signedDigits (short p).2,
      DateTime.toWire_of_holds h digits⟩
    · rw [showTable_of_holds h digits]
    · rw [showTable_of_holds h digits]
      simp [Traced.output]
    · rw [splitOn_tableText]
      rfl
  · intro other d holds digits'
    have short' := tooLong_eq_false_of_holds holds digits'
    rw [table_of_holds h digits, table_of_holds holds digits', Except.ok.injEq,
      DateTime.same_of_holds h holds]
    exact tableText_inj (fun p => (short p).1) fun p => (short' p).1

end

/-- The table of the last instant of a year that is wider than its columns. -/
def wideTable : String :=
  "Field     Stored   Max  Wire\n--------  ------  ----  ----\n" ++
    "Year      -1234567     -  -1234567\nMonth         12    12    13\n" ++
    "Day           32    32    33\nHour          24    24    24\n" ++
    "Minute        60    60    60\nSecond        60    60    60"

/-- A wide year moves the cells of its line, and they are cut out of it all the same. The first
instant of the year has another table. -/
theorem showTable_wideTable :
    (DateTime.lastOf (-1234567)).Holds (DateTime.countsOf (-1234567) 12 32 24 60 60) ∧
    (Text.naturalDigits (-1234567 : Int).natAbs).length ≤ 4300 ∧
    (Subject.dateTime (DateTime.lastOf (-1234567))).showTable.output = wideTable ++ "\n" ∧
    (∃ cells : Part → Cells, tableCells wideTable = Part.all.map fun p => (cells p).toList) ∧
    (Subject.dateTime (DateTime.lastOf (-1234567))).table ≠
      (Subject.dateTime (DateTime.firstOf (-1234567))).table := by
  have digits : (Text.naturalDigits (-1234567 : Int).natAbs).length ≤ 4300 := by cbv
  have outcome : (Subject.dateTime (DateTime.lastOf (-1234567))).showTable.outcome =
      .ok wideTable := by cbv
  obtain ⟨⟨text, shown, printed, -, cells, cut, -⟩, same⟩ :=
    showTable_readsBack (DateTime.holds_lastOf (-1234567)) digits
  obtain rfl := Except.ok.inj (shown.symm.trans outcome)
  refine ⟨DateTime.holds_lastOf _, digits, printed, ⟨cells, cut⟩, fun equal => ?_⟩
  exact absurd ((same (DateTime.holds_firstOf (-1234567)) digits).mp equal) (by decide)

end Subject

end CivilTime
