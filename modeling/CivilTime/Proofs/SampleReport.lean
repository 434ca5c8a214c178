import CivilTime.Proofs.BatchReport
import CivilTime.Proofs.SixNumbers
import CivilTime.Proofs.TextTables

/-!
# The report on date-times

The section on date-times goes through the samples of a document (`IsSampleDocument`), texts to be
read and numbers to be built of, and gives each of them a row in one of its two tables. What a row
says depends on the sample alone and not on the list that it sits in (`ShowsText`, `ShowsNumbers`) :
a text that is read is shown with its stored numbers, which make the same date-time, and as it is
written back; an error stands in the place of a result.

Reading a text and building of six integers can end with errors of dates and times only, and the
integers of a document can be written. So no sample stops the section (`textSampleRow_of_sample`,
`numberSampleRow_of_sample`), and since rows have as many cells as there are headers, no table does
(`dateTimes_of_samples`).
-/

namespace CivilTime

/-- Items that are gone through one after the other give the results and the records of each. -/
theorem Traced.exists_mapM {α β γ δ : Type} {f : α → Traced β} {g : δ → β}
    {log : γ → List LogRecord} {Sample : α → γ → Prop} {Shown : γ → δ → Prop}
    (step : ∀ a c, Sample a c → ∃ d, f a = ⟨[], log c, .ok (g d)⟩ ∧ Shown c d)
    {items : List α} {samples : List γ} (h : List.Forall₂ Sample items samples) :
    ∃ rows, items.mapM f = ⟨[], samples.flatMap log, .ok (rows.map g)⟩ ∧
      List.Forall₂ Shown samples rows := by
  induction h with
  | nil => exact ⟨[], rfl, .nil⟩
  | cons first _ ih =>
    obtain ⟨row, hrow, shown⟩ := step _ _ first
    obtain ⟨rows, hrows, others⟩ := ih
    refine ⟨row :: rows, ?_, .cons shown others⟩
    rw [List.mapM_cons, hrow, hrows]
    simp [Traced.bind_ok]

namespace Report

/-! ## Numbers in a cell -/

/-- Numbers with blanks between them. -/
def joined (numbers : List Nat) : String :=
  " ".intercalate (numbers.map fun n => String.ofList (Text.naturalDigits n))

/-- The numbers in a cell that has blanks between them. -/
def numbersIn (cell : String) : Attempt (List Nat) :=
  (cell.toList.splitOn ' ').mapM fun word => readNumeral (String.ofList word)

theorem numbersIn_joined {numbers : List Nat} (hne : numbers ≠ [])
    (short : ∀ n ∈ numbers, Text.tooLong n = false) :
    numbersIn (joined numbers) = .ok numbers := by
  have words : (joined numbers).toList.splitOn ' ' = numbers.map Text.naturalDigits := by
    rw [joined, String.toList_intercalate, List.map_map]
    have chars : (String.toList ∘ fun n => String.ofList (Text.naturalDigits n)) =
        Text.naturalDigits := by
      funext n
      exact String.toList_ofList
    rw [chars]
    refine List.splitOn_intercalate ' ' (fun word hword => ?_) (by simpa using hne)
    obtain ⟨n, -, rfl⟩ := List.mem_map.mp hword
    intro blank
    exact absurd (Text.isDigit_of_mem_naturalDigits blank) (by decide)
  rw [numbersIn, words, List.mapM_map]
  conv_rhs => rw [← List.map_id numbers]
  exact Attempt.mapM_eq_ok_map fun n hn => readNumeral_naturalDigits (short n hn)

theorem storedNumbers_ofCounts {n : Part → Nat} (short : ∀ p, Text.tooLong (n p) = false) :
    storedNumbers (.ofCounts fun p => n p) = .ok (joined (Part.all.map n)) := by
  have shown : ∀ p, Value.display? (.int (n p)) =
      .ok (String.ofList (Text.naturalDigits (n p))) := by
    intro p
    rw [Value.display?, Value.oversized, short p]
    rfl
  have wrapped : ∀ (u : CalendarUnit) (m : Int),
      Field.toInteger ⟨.standard u, .int m⟩ = .ok m := fun _ _ => rfl
  simp [storedNumbers, DateTime.ofCounts, shown, wrapped, joined, Part.all]

/-! ## Samples -/

/-- Whether a value is the sample of a text, under a name. -/
structure IsTextSample (v : Value) (sample : String × String) : Prop where
  id : v.entry "id" = .ok (.str sample.1)
  text : v.entry "text" = .ok (.str sample.2)

/-- Whether a value is the sample of six integers, under a name. -/
structure IsNumberSample (v : Value) (sample : String × (Part → Int)) : Prop where
  id : v.entry "id" = .ok (.str sample.1)
  args : v.entry "args" = .ok (.list (DateTime.values sample.2))

/-- Whether a document has a list of samples under a key. -/
def HasSamples {α : Type} (IsSample : Value → α → Prop) (data : Value) (key : String)
    (samples : List α) : Prop :=
  ∃ items, data.entry key = .ok (.list items) ∧ List.Forall₂ IsSample items samples

/-- Whether a document has samples of texts and of numbers, each in two lists. -/
structure IsSampleDocument (data : Value) (read refused : List (String × String))
    (built unbuilt : List (String × (Part → Int))) : Prop where
  read : HasSamples IsTextSample data "parse" read
  refused : HasSamples IsTextSample data "parse_errors" refused
  built : HasSamples IsNumberSample data "try_new" built
  unbuilt : HasSamples IsNumberSample data "try_new_errors" unbuilt

/-- The samples of two lists of a document, one after the other. -/
theorem HasSamples.samples_eq {α : Type} {IsSample : Value → α → Prop} {data : Value}
    (hdata : data.IsDocument) {first second : String} {xs ys : List α}
    (hfirst : HasSamples IsSample data first xs) (hsecond : HasSamples IsSample data second ys) :
    ∃ items, samples data first second = .ok items ∧
      List.Forall₂ (fun v sample => v.IsDocument ∧ IsSample v sample) items (xs ++ ys) := by
  obtain ⟨items, hitems, all⟩ := hfirst
  obtain ⟨others, hothers, allOthers⟩ := hsecond
  refine ⟨items ++ others, ?_, (List.forall₂_and_left _ _).mpr
    ⟨List.forall_mem_append.mpr ⟨?_, ?_⟩, List.rel_append all allOthers⟩⟩
  · rw [samples, hitems, hothers]
    rfl
  · exact fun v hv => (hdata.of_entry hitems).of_mem_list hv
  · exact fun v hv => (hdata.of_entry hothers).of_mem_list hv

/-! ## Rows -/

/-- What two cells say of a text. A text that is refused has its error in the first cell and nothing
in the second one. A text that is read has the stored numbers in the first cell, which make the same
date-time, and itself in the second one, with a zero in the place of each plus sign. -/
structure ShowsReading (text result wire : String) : Prop where
  wire_eq_empty_iff : wire = "" ↔
    ∃ cause, (DateTime.parse (.str text)).outcome = .error cause
  refused : ∀ cause, (DateTime.parse (.str text)).outcome = .error cause →
    ∃ e, cause = .dateTime e ∧ result = e.label ++ ": " ++ e.message
  read : ∀ dt, (DateTime.parse (.str text)).outcome = .ok dt →
    wire = text.map Text.zeroForPlus ∧
      ∃ numbers : List Nat, result = joined numbers ∧ numbersIn result = .ok numbers ∧
        DateTime.tryNewOf (numbers.map fun n : Nat => .int n) = .ok dt

/-- Whether a row shows how the text of a sample is read. -/
def ShowsText (sample : String × String) (row : List String) : Prop :=
  ∃ result wire, row = [sample.1, Text.quoted sample.2, result, wire] ∧
    ShowsReading sample.2 result wire

/-- What a cell says of six integers : the date-time they make, or the error of the one that is out
of range. -/
structure ShowsBuilding (numbers : List Value) (result : String) : Prop where
  built : ∀ dt, DateTime.tryNewOf numbers = .ok dt → result = dt.literal
  refused : ∀ cause, DateTime.tryNewOf numbers = .error cause →
    ∃ u, cause = .dateTime (DateTime.outOfRange u) ∧
      result = "FieldOverflowError: " ++ (DateTime.outOfRange u).message

/-- Whether a row shows which date-time the integers of a sample make. -/
def ShowsNumbers (sample : String × (Part → Int)) (row : List String) : Prop :=
  ∃ result, row = [sample.1, (Value.list (DateTime.values sample.2)).literal, result] ∧
    ShowsBuilding (DateTime.values sample.2) result

theorem showsReading_of_ok {text : String} {dt : DateTime}
    (h : (DateTime.parse (.str text)).outcome = .ok dt) :
    ∃ stored, storedNumbers dt = .ok stored ∧ dt.toWire = .ok (text.map Text.zeroForPlus) ∧
      ShowsReading text stored (text.map Text.zeroForPlus) := by
  have read : DateTime.ofWire text = .ok dt := (DateTime.outcome_parseText text).symm.trans h
  obtain ⟨n, rfl, holds, small⟩ := DateTime.exists_counts_of_ofWire read
  have short : ∀ p, Text.tooLong (n p) = false := fun p =>
    (Text.tooLong_eq_false_iff _).mpr
      (DateTime.length_naturalDigits_of_le (Int.natCast_nonneg _) (small p))
  have numbers : numbersIn (joined (Part.all.map n)) = .ok (Part.all.map n) :=
    numbersIn_joined (by simp [Part.all]) (List.forall_mem_map.mpr fun p _ => short p)
  have made : DateTime.tryNewOf ((Part.all.map n).map fun n : Nat => .int n) =
      .ok (.ofCounts fun p => n p) := by
    rw [List.map_map]
    exact DateTime.tryNewOf_of_holds holds
  have filled : text.map Text.zeroForPlus ≠ "" := by
    intro empty
    have length : text.length = 19 := (DateTime.hasLayout_of_ofWire read).length
    have same : (text.map Text.zeroForPlus).toList.length = 19 := by
      rw [String.toList_map, List.length_map, String.length_toList, length]
    rw [empty] at same
    cases same
  refine ⟨_, storedNumbers_ofCounts short, DateTime.toWire_of_ofWire read, ?_, ?_, ?_⟩
  · rw [h]
    simp [filled]
  · intro cause refused
    rw [h] at refused
    cases refused
  · intro dt same
    rw [h] at same
    obtain rfl := Except.ok.inj same
    exact ⟨rfl, _, rfl, numbers, made⟩

theorem showsReading_of_error {text : String} {e : DateTimeError}
    (h : (DateTime.parse (.str text)).outcome = .error (.dateTime e)) :
    ShowsReading text (e.label ++ ": " ++ e.message) "" where
  wire_eq_empty_iff := ⟨fun _ => ⟨_, h⟩, fun _ => rfl⟩
  refused := by
    intro cause refused
    rw [h] at refused
    exact ⟨e, (Except.error.inj refused).symm, rfl⟩
  read := by
    intro dt read
    rw [h] at read
    cases read

theorem textSampleRow_of_sample {v : Value} {sample : String × String}
    (h : IsTextSample v sample) :
    ∃ row, textSampleRow v = ⟨[], (DateTime.parse (.str sample.2)).log, .ok (textRow row)⟩ ∧
      ShowsText sample row := by
  obtain ⟨id, text⟩ := sample
  have shown : (Value.str text).literal? = .ok (Text.quoted text) := rfl
  cases outcome : (DateTime.parse (.str text)).outcome with
  | ok dt =>
    have parsed : DateTime.parse (.str text) = ⟨[], [], .ok dt⟩ :=
      DateTime.parseText_of_outcome_ok outcome
    obtain ⟨stored, hstored, hwire, shows⟩ := showsReading_of_ok outcome
    refine ⟨[id, Text.quoted text, stored, text.map Text.zeroForPlus], ?_, _, _, rfl, shows⟩
    simp only [textSampleRow, h.text, h.id, parsed, shown, hstored, hwire, Traced.observe,
      Traced.lift_eq, Traced.bind_ok]
    rfl
  | error cause =>
    obtain ⟨e, rfl⟩ := DateTime.exists_of_outcome_parse outcome
    have parsed : DateTime.parse (.str text) = ⟨[], [.rejected text e], .error (.dateTime e)⟩ :=
      DateTime.parseText_of_outcome_error outcome
    refine ⟨[id, Text.quoted text, e.label ++ ": " ++ e.message, ""], ?_, _, _, rfl,
      showsReading_of_error outcome⟩
    simp only [textSampleRow, h.text, h.id, parsed, shown, Traced.observe, Traced.lift_eq,
      Traced.bind_ok]
    rfl

theorem showsBuilding_of_ok {numbers : List Value} {dt : DateTime}
    (h : DateTime.tryNewOf numbers = .ok dt) : ShowsBuilding numbers dt.literal where
  built := by
    intro other same
    rw [h] at same
    rw [Except.ok.inj same]
  refused := by
    intro cause refused
    rw [h] at refused
    cases refused

theorem showsBuilding_of_error {numbers : List Value} {u : CalendarUnit}
    (h : DateTime.tryNewOf numbers = .error (.dateTime (DateTime.outOfRange u))) :
    ShowsBuilding numbers ("FieldOverflowError: " ++ (DateTime.outOfRange u).message) where
  built := by
    intro dt built
    rw [h] at built
    cases built
  refused := by
    intro cause refused
    rw [h] at refused
    exact ⟨u, (Except.error.inj refused).symm, rfl⟩

/-- The integers of a sample in a document are not too long to be written. -/
theorem IsNumberSample.tooLong_eq_false {v : Value} {sample : String × (Part → Int)}
    (h : IsNumberSample v sample) (hv : v.IsDocument) (p : Part) :
    Text.tooLong (sample.2 p) = false := by
  have mem : Value.int (sample.2 p) ∈ DateTime.values sample.2 :=
    List.mem_map_of_mem (by cases p <;> decide)
  exact ((hv.of_entry h.args).of_mem_list mem).oversized_eq_false

theorem numberSampleRow_of_sample {v : Value} {sample : String × (Part → Int)}
    (hv : v.IsDocument) (h : IsNumberSample v sample) :
    ∃ row, numberSampleRow v = ⟨[], [], .ok (textRow row)⟩ ∧ ShowsNumbers sample row := by
  have short := h.tooLong_eq_false hv
  obtain ⟨id, c⟩ := sample
  have shown : (Value.list (DateTime.values c)).display? =
      .ok (Value.list (DateTime.values c)).literal := by
    rw [Value.display?, (hv.of_entry h.args).oversized_eq_false]
    rfl
  have numbers : spread (.list (DateTime.values c)) = .ok (DateTime.values c) := rfl
  cases made : DateTime.tryNewOf (DateTime.values c) with
  | ok dt =>
    obtain rfl := DateTime.eq_ofCounts_of_tryNewOf made
    refine ⟨_, ?_, _, rfl, showsBuilding_of_ok made⟩
    simp only [numberSampleRow, h.id, h.args, shown, numbers, outcome, builtDateTime, made,
      DateTime.literal?_ofCounts short, Traced.observe, Traced.lift_eq, Traced.bind_ok]
    rfl
  | error cause =>
    obtain ⟨u, rfl⟩ := DateTime.exists_outOfRange_of_tryNewOf made
    refine ⟨_, ?_, _, rfl, showsBuilding_of_error made⟩
    simp only [numberSampleRow, h.id, h.args, shown, numbers, outcome, builtDateTime, made,
      Traced.observe, Traced.lift_eq, Traced.bind_ok, Traced.bind_error]
    rfl

/-! ## The section -/

/-- The lines of a heading. -/
def headingLines (title : String) : List String :=
  ["", "  " ++ title, "  " ++ Text.dashes (title.length + 2)]

theorem heading_str (title : String) :
    heading (.str title) = ⟨headingLines title, [], .ok ()⟩ := rfl

/-- The headers of the table of texts. -/
def textHeaders : List String :=
  ["Scenario", "Text", "Stored y m d h mi s", "Wire"]

/-- The headers of the table of numbers. -/
def numberHeaders : List String :=
  ["Scenario", "Args", "Result"]

/-- The lines of the section on date-times with some rows in its two tables. -/
def dateTimeLines (textRows numberRows : List (List String)) : List String :=
  bannerLines "DATE-TIME COMPOSITE" ++ headingLines "Function: DateTime.parse(text)" ++
    ["    Month and day are stored zero-indexed; the wire stays one-indexed.", ""] ++
    tableLines "    " textHeaders textRows ++ headingLines "Function: DateTime.try_new(...)" ++
    tableLines "    " numberHeaders numberRows

theorem ShowsText.length_eq {sample : String × String} {row : List String}
    (h : ShowsText sample row) : row.length = textHeaders.length := by
  obtain ⟨_, _, rfl, -⟩ := h
  simp [textHeaders]

theorem ShowsNumbers.length_eq {sample : String × (Part → Int)} {row : List String}
    (h : ShowsNumbers sample row) : row.length = numberHeaders.length := by
  obtain ⟨_, rfl, -⟩ := h
  simp [numberHeaders]

/-- A file of samples is shown without a failure, and with the records that reading its texts
leaves. There is a row for each sample, in the order of the lists, and it shows what comes of the
sample, whatever list it is in. -/
theorem dateTimes_of_samples {f : File} {data : Value} {read refused : List (String × String)}
    {built unbuilt : List (String × (Part → Int))} {limits : Limits}
    (hdocument : f.document limits = .ok data)
    (h : IsSampleDocument data read refused built unbuilt) :
    ∃ textRows numberRows,
      dateTimes (f.document limits) limits = ⟨dateTimeLines textRows numberRows,
        (read ++ refused).flatMap fun sample => (DateTime.parse (.str sample.2)).log, .ok ()⟩ ∧
      List.Forall₂ ShowsText (read ++ refused) textRows ∧
      List.Forall₂ ShowsNumbers (built ++ unbuilt) numberRows := by
  have hdata : data.IsDocument := File.isDocument_of_document hdocument
  obtain ⟨texts, htexts, allTexts⟩ := h.read.samples_eq hdata h.refused
  obtain ⟨numbers, hnumbers, allNumbers⟩ := h.built.samples_eq hdata h.unbuilt
  obtain ⟨textRows, htextRows, textsShown⟩ :=
    Traced.exists_mapM (fun _ _ h => textSampleRow_of_sample h.2) allTexts
  obtain ⟨numberRows, hnumberRows, numbersShown⟩ :=
    Traced.exists_mapM (fun _ _ h => numberSampleRow_of_sample h.1 h.2) allNumbers
  refine ⟨textRows, numberRows, ?_, textsShown, numbersShown⟩
  have margin := indentation_tableIndent limits
  have textTable :
      table (textRow textHeaders) (.list (textRows.map textRow)) tableIndent limits = _ :=
    table_texts (forall_mem_of_forall₂ (fun _ _ h => h.length_eq.le) textsShown) margin
  have numberTable :
      table (textRow numberHeaders) (.list (numberRows.map textRow)) tableIndent limits = _ :=
    table_texts (forall_mem_of_forall₂ (fun _ _ h => h.length_eq.le) numbersShown) margin
  have noRecords : (built ++ unbuilt).flatMap (fun _ => ([] : List LogRecord)) = [] :=
    List.flatMap_eq_nil_iff.mpr fun _ _ => rfl
  simp only [textHeaders, numberHeaders] at textTable numberTable
  simp only [dateTimes, hdocument, banner_str, heading_str, htexts, hnumbers, htextRows,
    hnumberRows, textTable, numberTable, Traced.print, Traced.lift_eq, Traced.bind_ok]
  simp -implicitDefEqProofs only [noRecords, dateTimeLines, textHeaders, numberHeaders,
    List.append_assoc, List.nil_append, List.append_nil, List.cons_append]

/-- Samples that sit in the other list than their keys say : a text that is refused and one that is
read, numbers out of range and numbers in range. -/
def misplaced : File :=
  Batch.fileOf "datetime.json" "\x7b\"parse\":[\x7b\"id\":\"a\",\"text\":\"0\"\x7d],
\"parse_errors\":[\x7b\"id\":\"b\",\"text\":\"+020-+9-24T13:21:00\"\x7d],
\"try_new\":[\x7b\"id\":\"c\",\"args\":[2020,13,33,0,0,0]\x7d],
\"try_new_errors\":[\x7b\"id\":\"d\",\"args\":[-1,12,32,24,60,60]\x7d]\x7d"

/-- The document of the file. -/
def misplacedData : Value :=
  .dict
    [("parse", .list [.dict [("id", .str "a"), ("text", .str "0")]]),
      ("parse_errors", .list [.dict [("id", .str "b"), ("text", .str "+020-+9-24T13:21:00")]]),
      ("try_new", .list [.dict [("id", .str "c"),
        ("args", .list [.int 2020, .int 13, .int 33, .int 0, .int 0, .int 0])]]),
      ("try_new_errors", .list [.dict [("id", .str "d"),
        ("args", .list [.int (-1), .int 12, .int 32, .int 24, .int 60, .int 60])]])]

set_option maxRecDepth 20000 in
theorem document_misplaced : misplaced.document .usual = .ok misplacedData := by
  rfl

theorem isSampleDocument_misplacedData :
    IsSampleDocument misplacedData [("a", "0")] [("b", "+020-+9-24T13:21:00")]
      [("c", DateTime.countsOf 2020 13 33 0 0 0)]
      [("d", DateTime.countsOf (-1) 12 32 24 60 60)] where
  read := ⟨_, rfl, .cons ⟨rfl, rfl⟩ .nil⟩
  refused := ⟨_, rfl, .cons ⟨rfl, rfl⟩ .nil⟩
  built := ⟨_, rfl, .cons ⟨rfl, rfl⟩ .nil⟩
  unbuilt := ⟨_, rfl, .cons ⟨rfl, rfl⟩ .nil⟩

set_option maxRecDepth 20000 in
theorem literal_largest : (DateTime.ofCounts (DateTime.countsOf (-1) 12 32 24 60 60)).literal =
    "DateTime(year=-1, month=Month(value=12), day=Day(value=32), hour=Hour(value=24), " ++
      "minute=Minute(value=60), second=Second(value=60))" := by
  rfl

/-- Each of the misplaced samples is shown as what it is. What the rows show settles their cells,
all but the stored numbers. -/
theorem dateTimes_misplaced :
    misplaced.document .usual = .ok misplacedData ∧
    IsSampleDocument misplacedData [("a", "0")] [("b", "+020-+9-24T13:21:00")]
      [("c", DateTime.countsOf 2020 13 33 0 0 0)]
      [("d", DateTime.countsOf (-1) 12 32 24 60 60)] ∧
    ∃ numbers : List Nat,
      DateTime.tryNewOf (numbers.map fun n : Nat => .int n) =
        .ok (.ofCounts (DateTime.countsOf 20 8 23 13 21 0)) ∧
      dateTimes (misplaced.document .usual) .usual =
        ⟨dateTimeLines
          [["a", "'0'",
              "MalformedInputError: Malformed date-time '0': expected 19 characters, got 1", ""],
            ["b", "'+020-+9-24T13:21:00'", joined numbers, "0020-09-24T13:21:00"]]
          [["c", "[2020, 13, 33, 0, 0, 0]", "FieldOverflowError: Month must be between 0-12"],
            ["d", "[-1, 12, 32, 24, 60, 60]",
              "DateTime(year=-1, month=Month(value=12), day=Day(value=32), hour=Hour(value=24), " ++
                "minute=Minute(value=60), second=Second(value=60))"]],
          [.rejected "0" (.wrongLength "0" 19)], .ok ()⟩ := by
  refine ⟨document_misplaced, isSampleDocument_misplacedData, ?_⟩
  obtain ⟨textRows, numberRows, printed, texts, numbers⟩ :=
    dateTimes_of_samples document_misplaced isSampleDocument_misplacedData
  have short : (DateTime.parse (.str "0")).outcome =
      .error (.dateTime (.wrongLength "0" 19)) := rfl
  have signed : (DateTime.parse (.str "+020-+9-24T13:21:00")).outcome =
      .ok (.ofCounts (DateTime.countsOf 20 8 23 13 21 0)) := rfl
  have beyond : DateTime.tryNewOf (DateTime.values (DateTime.countsOf 2020 13 33 0 0 0)) =
      .error (.dateTime (DateTime.outOfRange .month)) := rfl
  have last : DateTime.tryNewOf (DateTime.values (DateTime.countsOf (-1) 12 32 24 60 60)) =
      .ok (.ofCounts (DateTime.countsOf (-1) 12 32 24 60 60)) := rfl
  obtain _ | ⟨⟨_, wire, rfl, refused⟩, _ | ⟨⟨_, _, rfl, read⟩, ⟨⟩⟩⟩ := texts
  obtain _ | ⟨⟨_, rfl, unbuilt⟩, _ | ⟨⟨_, rfl, built⟩, ⟨⟩⟩⟩ := numbers
  obtain ⟨_, same, rfl⟩ := refused.refused _ short
  obtain rfl := Failure.dateTime.inj same
  obtain rfl : wire = "" := refused.wire_eq_empty_iff.mpr ⟨_, short⟩
  obtain ⟨rfl, numbers, rfl, -, made⟩ := read.read _ signed
  obtain ⟨_, same, rfl⟩ := unbuilt.refused _ beyond
  rw [← Failure.dateTime.inj same] at printed
  obtain rfl := built.built _ last
  refine ⟨numbers, made, ?_⟩
  have quoted : Text.quoted "0" = "'0'" := rfl
  have quotedSigned : Text.quoted "+020-+9-24T13:21:00" = "'+020-+9-24T13:21:00'" := rfl
  have zeros : "+020-+9-24T13:21:00".map Text.zeroForPlus = "0020-09-24T13:21:00" := by
    apply String.ext
    rw [String.toList_map]
    decide
  have args : (Value.list (DateTime.values (DateTime.countsOf 2020 13 33 0 0 0))).literal =
      "[2020, 13, 33, 0, 0, 0]" := rfl
  have largest : (Value.list (DateTime.values (DateTime.countsOf (-1) 12 32 24 60 60))).literal =
      "[-1, 12, 32, 24, 60, 60]" := rfl
  rw [printed]
  simp only [quoted, quotedSigned, zeros, args, largest, literal_largest]
  rfl

end Report

end CivilTime
