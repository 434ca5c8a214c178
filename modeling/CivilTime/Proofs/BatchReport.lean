import CivilTime.Proofs.Batches
import CivilTime.Proofs.Tables
import CivilTime.Report.Sections

/-!
# The report on a batch

The section on a batch prints its banner before it loads the file, so a file that cannot be loaded
leaves the banner and nothing else. What a file that can be loaded gives was read from texts, so it
holds numbers and its years have four digits. Then no table can fail (`Batch.Reads.exists_tables`),
neither the one of all date-times nor those of the single ones, which stand under their keys
(`Shown`).

So loading the file is the only step of the section that can fail (`batch_error_iff_load_error`).
-/

namespace CivilTime

/-- Both tables of what is read from a value can be written. -/
theorem DateTime.exists_tables_of_outcome_parse {v : Value} {dt : DateTime}
    (h : (parse v).outcome = .ok dt) :
    (∃ table, (Subject.dateTime dt).table = .ok table) ∧
      ∃ summary, (Subject.dateTime dt).summary = .ok summary := by
  by_cases text : ∃ text, v = .str text
  · obtain ⟨text, rfl⟩ := text
    have read : ofWire text = .ok dt := (outcome_parseText text).symm.trans h
    have holds : dt.Holds (stored (wireNumbers text)) := holds_of_ofWire read
    obtain ⟨lower, upper, -⟩ := stored_bounds read
    have digits := length_naturalDigits_of_le lower upper
    exact ⟨⟨_, Subject.table_of_holds holds digits⟩, ⟨_, Subject.summary_of_holds holds digits⟩⟩
  · rw [parse_of_not_str (not_exists.mp text)] at h
    cases h

namespace Batch

theorem Reads.exists_tables {raw : List (String × Value)} {entries : List (String × DateTime)}
    (h : Reads raw entries) :
    ∀ e ∈ entries, (∃ table, (Subject.dateTime e.2).table = .ok table) ∧
      ∃ summary, (Subject.dateTime e.2).summary = .ok summary := by
  induction h with
  | nil => nofun
  | cons first _ ih =>
    exact List.forall_mem_cons.mpr ⟨DateTime.exists_tables_of_outcome_parse first.2, ih⟩

/-- Loading a file prints nothing. It fails, or it gives the date-times of a batch whose keys are
distinct. -/
theorem load_cases (f : File) (limits : Limits) :
    (∃ log cause, load f limits = ⟨[], log, .error cause⟩) ∨
      ∃ data raw entries log, f.document limits = .ok data ∧ batchOf data = .dict raw ∧
        (raw.map Prod.fst).Nodup ∧ Reads raw entries ∧
        load f limits = ⟨[], log, .ok entries⟩ := by
  cases hdocument : f.document limits with
  | error cause => exact .inl ⟨[], cause, by rw [load, hdocument]; rfl⟩
  | ok data =>
    rw [load_eq hdocument]
    by_cases mapping : ∃ raw, batchOf data = .dict raw
    · obtain ⟨raw, hraw⟩ := mapping
      by_cases all : AllRead raw
      · have keys : (raw.map Prod.fst).Nodup :=
          (hraw ▸ isDocument_batchOf (File.isDocument_of_document hdocument)).nodup
        obtain ⟨entries, reads, loaded⟩ := ofDocument_of_allRead f.path hraw all
        exact .inr ⟨data, raw, entries, _, rfl, hraw, keys, reads, loaded⟩
      · obtain ⟨found, log, -, -, refused⟩ := ofDocument_of_not_allRead f.path hraw all
        exact .inl ⟨log, _, refused⟩
    · exact .inl ⟨[], _, ofDocument_of_not_dict (not_exists.mp mapping)⟩

end Batch

namespace Report

/-! ## What is printed -/

/-- The lines of a banner. -/
def bannerLines (title : String) : List String :=
  let bar := String.ofList (List.replicate pageWidth '=')
  ["", bar, "  " ++ title, bar]

/-- What is printed of date-times under their keys : for each of them an empty line, its key, a line
that is two characters longer, and its table. -/
inductive Shown : List (String × DateTime) → List String → Prop
  | nil : Shown [] []
  | cons {key : String} {dt : DateTime} {table : String} {rest lines} :
    (Subject.dateTime dt).table = .ok table → Shown rest lines →
    Shown ((key, dt) :: rest)
      ("" :: ("  " ++ key) :: ("  " ++ Text.dashes (key.length + 2)) :: table :: lines)

theorem banner_str (title : String) :
    banner (.str title) = ⟨bannerLines title, [], .ok ()⟩ := rfl

theorem printEntry_of_table {key : String} {dt : DateTime} {table : String}
    (h : (Subject.dateTime dt).table = .ok table) : printEntry (key, dt) =
      ⟨["", "  " ++ key, "  " ++ Text.dashes (key.length + 2), table], [], .ok ()⟩ := by
  rw [printEntry, Subject.showTable, h]
  rfl

/-- Date-times whose tables can be written can be shown. -/
theorem exists_shown {entries : List (String × DateTime)}
    (h : ∀ e ∈ entries, ∃ table, (Subject.dateTime e.2).table = .ok table) :
    ∃ lines, Shown entries lines := by
  induction entries with
  | nil => exact ⟨[], .nil⟩
  | cons e rest ih =>
    obtain ⟨⟨table, htable⟩, others⟩ := List.forall_mem_cons.mp h
    obtain ⟨lines, shown⟩ := ih others
    exact ⟨_, .cons htable shown⟩

theorem Shown.forM_printEntry {entries : List (String × DateTime)} {lines : List String}
    (h : Shown entries lines) : entries.forM printEntry = ⟨lines, [], .ok ()⟩ := by
  induction h with
  | nil => rfl
  | @cons key dt table rest lines htable _ ih =>
    have first : ((key, dt) :: rest).forM printEntry =
        printEntry (key, dt) >>= fun _ => rest.forM printEntry := rfl
    rw [first, printEntry_of_table htable, ih]
    rfl

/-- What is printed of date-times is determined. -/
theorem Shown.unique {entries : List (String × DateTime)} {lines others : List String}
    (h : Shown entries lines) (h' : Shown entries others) : lines = others := by
  have same := h.forM_printEntry.symm.trans h'.forM_printEntry
  exact congrArg Traced.printed same

/-! ## The section -/

/-- The file the section loads. -/
def batchFileOf (content : FileContent) : File :=
  ⟨batchFile, content⟩

/-- The section prints its banner and then works with what it loads. -/
theorem batch_document (content : FileContent) (limits : Limits) :
    batch ((batchFileOf content).document limits) = (do
    banner (.str "FIXTURE: datetimes.json")
    let entries ← Batch.load (batchFileOf content) limits
    Traced.print ""
    let _ ← showOverview (entries.map fun e => (e.1, Subject.dateTime e.2))
    entries.forM printEntry) := by
  rw [Batch.load]
  cases (batchFileOf content).document limits with
  | error cause => rfl
  | ok data => rfl

theorem batch_of_load_error {content : FileContent} {limits : Limits} {log : List LogRecord}
    {cause : Failure} (h : Batch.load (batchFileOf content) limits = ⟨[], log, .error cause⟩) :
    batch ((batchFileOf content).document limits) =
      ⟨bannerLines "FIXTURE: datetimes.json", log, .error cause⟩ := by
  rw [batch_document, h, banner_str]
  rfl

theorem batch_of_load_ok {content : FileContent} {limits : Limits} {log : List LogRecord}
    {entries : List (String × DateTime)} {table : String} {lines : List String}
    (h : Batch.load (batchFileOf content) limits = ⟨[], log, .ok entries⟩)
    (htable : overview (entries.map fun e => (e.1, Subject.dateTime e.2)) = .ok table)
    (shown : Shown entries lines) : batch ((batchFileOf content).document limits) =
      ⟨bannerLines "FIXTURE: datetimes.json" ++ "" :: table :: lines, log, .ok ()⟩ := by
  simp only [batch_document, h, banner_str, showOverview_of_ok htable, shown.forM_printEntry,
    Traced.print, Traced.bind_ok, List.append_nil, List.nil_append, List.singleton_append]

/-- The section on a batch fails exactly if its file cannot be loaded, with the same failure and
after nothing but the banner. Else it prints the banner, an empty line, the table of all date-times
that were loaded, and then a heading and a table for each of them, under the distinct keys of the
batch and in their order. -/
theorem batch_error_iff_load_error (content : FileContent) (limits : Limits) :
    (∀ cause, (batch ((batchFileOf content).document limits)).outcome = .error cause ↔
      (Batch.load (batchFileOf content) limits).outcome = .error cause) ∧
    (∀ cause, (Batch.load (batchFileOf content) limits).outcome = .error cause →
      (batch ((batchFileOf content).document limits)).printed =
        bannerLines "FIXTURE: datetimes.json") ∧
    ∀ entries, (Batch.load (batchFileOf content) limits).outcome = .ok entries →
      ∃ data raw table lines, (batchFileOf content).document limits = .ok data ∧
        Batch.batchOf data = .dict raw ∧ entries.map Prod.fst = raw.map Prod.fst ∧
        (entries.map Prod.fst).Nodup ∧
        overview (entries.map fun e => (e.1, Subject.dateTime e.2)) = .ok table ∧
        Shown entries lines ∧
        (batch ((batchFileOf content).document limits)).printed =
          bannerLines "FIXTURE: datetimes.json" ++ "" :: table :: lines ∧
        (batch ((batchFileOf content).document limits)).outcome = .ok () := by
  rcases Batch.load_cases (batchFileOf content) limits with
    ⟨log, cause, failed⟩ | ⟨data, raw, entries, log, hdocument, hraw, keys, reads, loaded⟩
  · rw [batch_of_load_error failed, failed]
    refine ⟨fun other => ?_, fun _ _ => rfl, nofun⟩
    simp only [Except.error.injEq]
  · obtain ⟨table, htable⟩ :
        ∃ table, overview (entries.map fun e => (e.1, Subject.dateTime e.2)) = .ok table :=
      exists_overview (List.forall_mem_map.mpr fun e he => (reads.exists_tables e he).2)
    obtain ⟨lines, shown⟩ : ∃ lines, Shown entries lines :=
      exists_shown fun e he => (reads.exists_tables e he).1
    rw [batch_of_load_ok loaded htable shown, loaded]
    refine ⟨fun _ => ⟨nofun, nofun⟩, nofun, fun entries' same => ?_⟩
    obtain rfl := Except.ok.inj same
    exact ⟨data, raw, table, lines, hdocument, hraw, reads.map_fst, reads.map_fst ▸ keys, htable,
      shown, rfl, rfl⟩

/-- A batch of the last instant that can be read and of the first one. -/
def lastAndFirst : FileContent :=
  (Batch.fileOf "datetimes.json" "\x7b\"last\": \"9999-12-32T24:60:60\",
    \"first\": \"0000-01-01T00:00:00\"\x7d").content

/-- A list, which is no batch. -/
def emptyList : FileContent :=
  (Batch.fileOf "datetimes.json" "[]").content

/-- The last instant that can be read. -/
def lastInstant : DateTime :=
  .ofCounts (DateTime.countsOf 9999 11 31 24 60 60)

/-- The first instant. -/
def firstInstant : DateTime :=
  .ofCounts (DateTime.countsOf 0 0 0 0 0 0)

/-- The table of the last instant. -/
def lastTable : String :=
  "Field     Stored   Max  Wire\n--------  ------  ----  ----\nYear        9999     -  9999\n" ++
    "Month         11    12    12\nDay           31    32    32\nHour          24    24    24\n" ++
    "Minute        60    60    60\nSecond        60    60    60"

/-- The table of the first instant. -/
def firstTable : String :=
  "Field     Stored   Max  Wire\n--------  ------  ----  ----\nYear           0     -     0\n" ++
    "Month          0    12     1\nDay            0    32     1\nHour           0    24     0\n" ++
    "Minute         0    60     0\nSecond         0    60     0"

set_option maxRecDepth 20000 in
theorem outcome_load_lastAndFirst :
    (Batch.load (batchFileOf lastAndFirst) .usual).outcome =
      .ok [("last", lastInstant), ("first", firstInstant)] :=
  rfl

set_option maxRecDepth 20000 in
theorem table_lastInstant : (Subject.dateTime lastInstant).table = .ok lastTable :=
  rfl

set_option maxRecDepth 20000 in
theorem table_firstInstant : (Subject.dateTime firstInstant).table = .ok firstTable :=
  rfl

set_option maxRecDepth 20000 in
theorem overview_lastAndFirst :
    overview [("last", .dateTime lastInstant), ("first", .dateTime firstInstant)] =
      .ok "last   9999/12/32 24:60:60\nfirst  0000/01/01 00:00:00" :=
  rfl

set_option maxRecDepth 20000 in
theorem outcome_load_list : (Batch.load (batchFileOf emptyList) .usual).outcome =
    .error (.value (.validation "datetimes.json" [Batch.noMapping])) :=
  rfl

/-- Two instants are shown in the order of their file, and of a list only the banner is seen. -/
theorem printed_lastAndFirst :
    (Batch.load (batchFileOf lastAndFirst) .usual).outcome =
      .ok [("last", lastInstant), ("first", firstInstant)] ∧
    (batch ((batchFileOf lastAndFirst).document .usual)).printed =
      bannerLines "FIXTURE: datetimes.json" ++
        ["", "last   9999/12/32 24:60:60\nfirst  0000/01/01 00:00:00",
          "", "  last", "  ------", lastTable, "", "  first", "  -------", firstTable] ∧
    (Batch.load (batchFileOf emptyList) .usual).outcome =
      .error (.value (.validation "datetimes.json" [Batch.noMapping])) ∧
    (batch ((batchFileOf emptyList).document .usual)).printed =
      bannerLines "FIXTURE: datetimes.json" := by
  refine ⟨outcome_load_lastAndFirst, ?_, outcome_load_list,
    (batch_error_iff_load_error emptyList .usual).2.1 _ outcome_load_list⟩
  obtain ⟨_, _, table, lines, -, -, -, -, htable, shown, printed, -⟩ :=
    (batch_error_iff_load_error lastAndFirst .usual).2.2 _ outcome_load_lastAndFirst
  obtain rfl := Except.ok.inj (htable.symm.trans overview_lastAndFirst)
  have expected : Shown [("last", lastInstant), ("first", firstInstant)] _ :=
    .cons table_lastInstant (.cons table_firstInstant .nil)
  obtain rfl := shown.unique expected
  exact printed

end Report

end CivilTime
