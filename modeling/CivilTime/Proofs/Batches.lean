import CivilTime.Proofs.Documents
import CivilTime.Proofs.Refusals
import Mathlib.Data.List.Forall2

/-!
# Batches of date-times

A batch is gone through twice. The first pass looks at every entry and never fails : `Examined` says
what it finds and what it records, one constructor for each sort of entry
(`Examined.complaints_eq`). The second pass reads the entries and fails at the first that is no
date-time; it is made only if the first one has found nothing, and then every entry is read
(`readAll_eq_of_allRead`).

So a file gives all of its date-times, in their order, or none of them (`load_of_document`). A
wrapped batch and a bare one give the same, unless the bare one has an entry under the key of the
wrapper (`load_bare_eq_load_wrapped_iff`) : then that entry is taken for the batch.
-/

namespace CivilTime.Batch

/-! ## The first pass -/

/-- What is found in the entries of a batch, and the records of it. A text of a date-time gives
nothing; a text that is refused gives its error and a record; and what is no text gives the name of
its type. -/
inductive Examined : List (String × Value) → List String → List LogRecord → Prop
  | nil : Examined [] [] []
  | read {key text : String} {dt : DateTime} {rest found log} :
    (DateTime.parse (.str text)).outcome = .ok dt → Examined rest found log →
    Examined ((key, .str text) :: rest) found log
  | refused {key text : String} {e : DateTimeError} {rest found log} :
    (DateTime.parse (.str text)).outcome = .error (.dateTime e) → Examined rest found log →
    Examined ((key, .str text) :: rest) ((key ++ ": " ++ e.message) :: found)
      (.rejected text e :: log)
  | noText {key : String} {v : Value} {rest found log} :
    (∀ text, v ≠ .str text) → Examined rest found log →
    Examined ((key, v) :: rest) ((key ++ ": expected a string, got " ++ v.typeName) :: found) log

/-- Whether all entries of a batch are texts of date-times. -/
def AllRead (entries : List (String × Value)) : Prop :=
  ∀ e ∈ entries, ∃ text dt, e.2 = .str text ∧ (DateTime.parse (.str text)).outcome = .ok dt

theorem complaint?_of_read (key : String) {text : String} {dt : DateTime}
    (h : (DateTime.parse (.str text)).outcome = .ok dt) :
    complaint? key (.str text) = ⟨[], [], .ok none⟩ := by
  rw [complaint?, DateTime.parseText_of_outcome_ok h]
  rfl

theorem complaint?_of_refused (key : String) {text : String} {e : DateTimeError}
    (h : (DateTime.parse (.str text)).outcome = .error (.dateTime e)) :
    complaint? key (.str text) =
      ⟨[], [.rejected text e], .ok (some (key ++ ": " ++ e.message))⟩ := by
  rw [complaint?, DateTime.parseText_of_outcome_error h]
  rfl

theorem complaint?_of_not_str (key : String) {v : Value} (h : ∀ text, v ≠ .str text) :
    complaint? key v = ⟨[], [], .ok (some (key ++ ": expected a string, got " ++ v.typeName))⟩ := by
  cases v with
  | str text => exact absurd rfl (h text)
  | _ => rfl

theorem complaints_cons {key : String} {v : Value} {rest : List (String × Value)}
    {found? : Option String} {others : List String} {log more : List LogRecord}
    (hfirst : complaint? key v = ⟨[], log, .ok found?⟩)
    (hrest : complaints rest = ⟨[], more, .ok others⟩) :
    complaints ((key, v) :: rest) = ⟨[], log ++ more, .ok (found?.toList ++ others)⟩ := by
  rw [complaints, hfirst, hrest]
  simp [Traced.bind_ok]

/-- Every entry is of one of the three sorts. -/
theorem exists_examined (entries : List (String × Value)) :
    ∃ found log, Examined entries found log := by
  induction entries with
  | nil => exact ⟨[], [], .nil⟩
  | cons e rest ih =>
    obtain ⟨found, log, examined⟩ := ih
    obtain ⟨key, v⟩ := e
    by_cases text : ∃ text, v = .str text
    · obtain ⟨text, rfl⟩ := text
      cases outcome : (DateTime.parse (.str text)).outcome with
      | ok dt => exact ⟨_, _, .read outcome examined⟩
      | error cause =>
        obtain ⟨e, rfl⟩ := DateTime.exists_of_outcome_parse outcome
        exact ⟨_, _, .refused outcome examined⟩
    · exact ⟨_, _, .noText (not_exists.mp text) examined⟩

/-- The first pass goes through the whole batch and never fails. -/
theorem Examined.complaints_eq {entries : List (String × Value)} {found : List String}
    {log : List LogRecord} (h : Examined entries found log) :
    complaints entries = ⟨[], log, .ok found⟩ := by
  induction h with
  | nil => rfl
  | @read key text dt _ _ _ read _ ih =>
    exact complaints_cons (complaint?_of_read key read) ih
  | @refused key text e _ _ _ refused _ ih =>
    exact complaints_cons (complaint?_of_refused key refused) ih
  | @noText key v _ _ _ noText _ ih =>
    exact complaints_cons (complaint?_of_not_str key noText) ih

/-- What is found in a batch and recorded of it is determined. -/
theorem Examined.unique {entries : List (String × Value)} {found found' : List String}
    {log log' : List LogRecord} (h : Examined entries found log)
    (h' : Examined entries found' log') : found = found' ∧ log = log' := by
  have same := h.complaints_eq.symm.trans h'.complaints_eq
  simp only [Traced.mk.injEq, Except.ok.injEq] at same
  exact ⟨same.2.2, same.2.1⟩

theorem allRead_cons {e : String × Value} {rest : List (String × Value)} :
    AllRead (e :: rest) ↔
      (∃ text dt, e.2 = .str text ∧ (DateTime.parse (.str text)).outcome = .ok dt) ∧
        AllRead rest :=
  List.forall_mem_cons

/-- Nothing is found in a batch exactly if all its entries are texts of date-times. -/
theorem Examined.eq_nil_iff {entries : List (String × Value)} {found : List String}
    {log : List LogRecord} (h : Examined entries found log) : found = [] ↔ AllRead entries := by
  induction h with
  | nil => exact ⟨fun _ => by simp [AllRead], fun _ => rfl⟩
  | read read _ ih => rw [ih, allRead_cons, and_iff_right ⟨_, _, rfl, read⟩]
  | refused refused _ _ =>
    refine ⟨nofun, fun all => ?_⟩
    obtain ⟨⟨text, dt, str, read⟩, -⟩ := allRead_cons.mp all
    obtain rfl := Value.str.inj str
    cases refused.symm.trans read
  | noText noText _ _ =>
    refine ⟨nofun, fun all => ?_⟩
    obtain ⟨⟨text, dt, str, -⟩, -⟩ := allRead_cons.mp all
    exact absurd str (noText text)

/-- A batch in which nothing is found leaves no record. -/
theorem Examined.log_eq_nil {entries : List (String × Value)} {found : List String}
    {log : List LogRecord} (h : Examined entries found log) (hfound : found = []) : log = [] := by
  induction h with
  | nil => rfl
  | read _ _ ih => exact ih hfound
  | refused _ _ _ => cases hfound
  | noText _ _ _ => cases hfound

/-! ## The second pass -/

/-- Whether date-times are those of the entries of a batch, under the same keys in the same
order. -/
def Reads (entries : List (String × Value)) (dateTimes : List (String × DateTime)) : Prop :=
  List.Forall₂ (fun e d => d.1 = e.1 ∧ (DateTime.parse e.2).outcome = .ok d.2) entries dateTimes

theorem Reads.map_fst {entries : List (String × Value)} {dateTimes : List (String × DateTime)}
    (h : Reads entries dateTimes) : dateTimes.map Prod.fst = entries.map Prod.fst :=
  map_eq_of_forall₂ (fun _ _ first => first.1) h

theorem Reads.length_eq {entries : List (String × Value)} {dateTimes : List (String × DateTime)}
    (h : Reads entries dateTimes) : dateTimes.length = entries.length := by
  simpa using congrArg List.length h.map_fst

/-- The date-times of a batch are determined. -/
theorem Reads.unique {entries : List (String × Value)} {dateTimes others : List (String × DateTime)}
    (h : Reads entries dateTimes) (h' : Reads entries others) : dateTimes = others := by
  refine List.right_unique_forall₂' (fun e d d' first first' => ?_) h h'
  exact Prod.ext (first.1.trans first'.1.symm) (Except.ok.inj (first.2.symm.trans first'.2))

/-- A batch of texts of date-times is read as a whole, and without a record. -/
theorem readAll_eq_of_allRead {entries : List (String × Value)} (h : AllRead entries) :
    ∃ dateTimes, Reads entries dateTimes ∧ readAll entries = ⟨[], [], .ok dateTimes⟩ := by
  induction entries with
  | nil => exact ⟨[], .nil, rfl⟩
  | cons e rest ih =>
    obtain ⟨⟨text, dt, str, read⟩, others⟩ := allRead_cons.mp h
    obtain ⟨dateTimes, reads, readRest⟩ := ih others
    obtain ⟨key, v⟩ := e
    obtain rfl : v = .str text := str
    have first : DateTime.parse (.str text) = ⟨[], [], .ok dt⟩ :=
      DateTime.parseText_of_outcome_ok read
    refine ⟨(key, dt) :: dateTimes, .cons ⟨rfl, read⟩ reads, ?_⟩
    rw [readAll, first, readRest]
    rfl

/-! ## Files -/

theorem ofDocument_of_allRead (path : Path) {data : Value} {entries : List (String × Value)}
    (hbatch : batchOf data = .dict entries) (h : AllRead entries) :
    ∃ dateTimes, Reads entries dateTimes ∧
      ofDocument path data = ⟨[], [.loaded entries.length path.text], .ok dateTimes⟩ := by
  obtain ⟨found, log, examined⟩ := exists_examined entries
  obtain rfl : found = [] := examined.eq_nil_iff.mpr h
  obtain rfl : log = [] := examined.log_eq_nil rfl
  obtain ⟨dateTimes, reads, readEntries⟩ := readAll_eq_of_allRead h
  refine ⟨dateTimes, reads, ?_⟩
  rw [ofDocument, hbatch, ← reads.length_eq]
  simp only [examined.complaints_eq, readEntries, Traced.bind_ok, ne_eq, not_true_eq_false,
    if_false]
  rfl

theorem ofDocument_of_not_allRead (path : Path) {data : Value} {entries : List (String × Value)}
    (hbatch : batchOf data = .dict entries) (h : ¬AllRead entries) :
    ∃ found log, Examined entries found log ∧ found ≠ [] ∧
      ofDocument path data = ⟨[], log, .error (.value (.validation path.fileName found))⟩ := by
  obtain ⟨found, log, examined⟩ := exists_examined entries
  have complained : found ≠ [] := mt examined.eq_nil_iff.mp h
  refine ⟨found, log, examined, complained, ?_⟩
  rw [ofDocument, hbatch]
  simp only [examined.complaints_eq, Traced.bind_ok, if_pos complained]
  simp [Traced.fail]

theorem ofDocument_of_not_dict {path : Path} {data : Value}
    (h : ∀ entries, batchOf data ≠ .dict entries) :
    ofDocument path data = ⟨[], [], .error (.value (.validation path.fileName [noMapping]))⟩ := by
  unfold ofDocument
  split
  · next entries hbatch => exact absurd hbatch (h entries)
  · rfl

theorem load_eq {f : File} {limits : Limits} {data : Value} (h : f.document limits = .ok data) :
    load f limits = ofDocument f.path data := by
  rw [load, h]
  rfl

/-- The batch of a document is that of one, too. -/
theorem isDocument_batchOf {data : Value} (h : data.IsDocument) : (batchOf data).IsDocument := by
  cases data with
  | dict entries =>
    rw [batchOf]
    cases found : lookup wrapperKey entries with
    | none => exact h
    | some v => exact h.of_mem (mem_of_lookup found)
  | _ => exact h

/-- A file gives all date-times of its batch or none of them. If all entries are texts of
date-times, these are read under their keys, in their order, and the only record is of their number;
else nothing is read, and the failure lists what is found in the entries. The second pass reads
every batch in which the first one finds nothing. -/
theorem load_of_document {f : File} {limits : Limits} {data : Value}
    (h : f.document limits = .ok data) :
    (∀ entries, batchOf data = .dict entries →
      (entries.map Prod.fst).Nodup ∧
      (AllRead entries → ∃ dateTimes, Reads entries dateTimes ∧
        load f limits = ⟨[], [.loaded entries.length f.path.text], .ok dateTimes⟩) ∧
      (¬AllRead entries → ∃ found log, Examined entries found log ∧ found ≠ [] ∧
        load f limits = ⟨[], log, .error (.value (.validation f.path.fileName found))⟩)) ∧
    ((∀ entries, batchOf data ≠ .dict entries) →
      load f limits = ⟨[], [], .error (.value (.validation f.path.fileName
        ["expected a mapping of id to date-time string"]))⟩) ∧
    (∀ found, (Failure.value (.validation f.path.fileName found)).message =
      "Validation errors in " ++ f.path.fileName ++ ":\n" ++
        "\n".intercalate (found.map ("  - " ++ ·))) ∧
    ∀ entries, (complaints entries).outcome = .ok [] →
      ∃ dateTimes, (readAll entries).outcome = .ok dateTimes := by
  rw [load_eq h]
  refine ⟨fun entries hbatch => ⟨?_, ofDocument_of_allRead f.path hbatch,
    ofDocument_of_not_allRead f.path hbatch⟩, ofDocument_of_not_dict, fun _ => rfl,
    fun entries clean => ?_⟩
  · exact (hbatch ▸ isDocument_batchOf (File.isDocument_of_document h)).nodup
  · obtain ⟨found, log, examined⟩ := exists_examined entries
    rw [examined.complaints_eq] at clean
    obtain ⟨dateTimes, -, readEntries⟩ :=
      readAll_eq_of_allRead (examined.eq_nil_iff.mp (Except.ok.inj clean))
    exact ⟨dateTimes, by rw [readEntries]⟩

/-- The file under a path that holds a text. -/
def fileOf (path text : String) : File :=
  ⟨.ofText path, .bytes text.toUTF8.data.toList⟩

/-- A wrapped batch of a date-time, a text that is refused and a number. -/
def mixedFile : File :=
  fileOf "mixed.json" "\x7b\"datetimes\": \x7b\"a\": \"2020-09-24T13:21:00\",
    \"b\": \"2020-13-01T00:00:00\", \"c\": 5\x7d\x7d"

/-- The batch of the file. -/
def mixedBatch : List (String × Value) :=
  [("a", .str "2020-09-24T13:21:00"), ("b", .str "2020-13-01T00:00:00"), ("c", .int 5)]

set_option maxRecDepth 20000 in
theorem document_mixedFile :
    mixedFile.document .usual = .ok (.dict [("datetimes", .dict mixedBatch)]) :=
  rfl

/-- One date-time of three entries is lost with the other two, of which the text is recorded. -/
theorem load_mixedFile :
    mixedFile.document .usual = .ok (.dict [("datetimes", .dict mixedBatch)]) ∧
      load mixedFile .usual =
        ⟨[], [.rejected "2020-13-01T00:00:00" (.overflow (.str "Month") (.int 12))],
          .error (.value (.validation "mixed.json"
            ["b: Month must be between 0-12", "c: expected a string, got int"]))⟩ := by
  refine ⟨document_mixedFile, ?_⟩
  have examined : Examined mixedBatch _ _ := .read rfl (.refused rfl (.noText nofun .nil))
  obtain ⟨-, -, refused⟩ := (load_of_document document_mixedFile).1 mixedBatch rfl
  obtain ⟨found, log, examined', -, loaded⟩ := refused (mt examined.eq_nil_iff.mpr nofun)
  obtain ⟨rfl, rfl⟩ := examined'.unique examined
  exact loaded

/-! ## Bare and wrapped batches -/

theorem batchOf_wrapped (v : Value) : batchOf (.dict [(wrapperKey, v)]) = v := rfl

theorem batchOf_of_not_mem {entries : List (String × Value)}
    (h : wrapperKey ∉ entries.map Prod.fst) : batchOf (.dict entries) = .dict entries := by
  rw [batchOf, lookup_eq_none_iff_not_mem.mpr h]
  rfl

/-- An entry under the key of the wrapper is taken for the batch, and a text is none. -/
theorem ofDocument_of_mem {path : Path} {entries : List (String × Value)} (all : AllRead entries)
    (here : wrapperKey ∈ entries.map Prod.fst) :
    ofDocument path (.dict entries) =
      ⟨[], [], .error (.value (.validation path.fileName [noMapping]))⟩ := by
  obtain ⟨v, found⟩ : ∃ v, lookup wrapperKey entries = some v :=
    Option.ne_none_iff_exists'.mp fun absent => lookup_eq_none_iff_not_mem.mp absent here
  obtain ⟨text, -, str, -⟩ := all _ (mem_of_lookup found)
  obtain rfl : v = .str text := str
  have batch : batchOf (.dict entries) = .str text := by
    rw [batchOf, found, Option.getD_some]
  exact ofDocument_of_not_dict fun _ dict => by cases batch.symm.trans dict

/-- A batch of date-times that is wrapped is read as a whole. One that is bare gives the same,
unless one of its keys is that of the wrapper : then its entry is taken for the batch, and nothing
is read. -/
theorem load_bare_eq_load_wrapped_iff {bare wrapped : File} {limits : Limits}
    {entries : List (String × Value)} (hbare : bare.document limits = .ok (.dict entries))
    (hwrapped : wrapped.document limits = .ok (.dict [("datetimes", .dict entries)]))
    (all : AllRead entries) :
    (∃ dateTimes, Reads entries dateTimes ∧ (load wrapped limits).outcome = .ok dateTimes) ∧
      ((load bare limits).outcome = (load wrapped limits).outcome ↔
        "datetimes" ∉ entries.map Prod.fst) ∧
      ("datetimes" ∈ entries.map Prod.fst →
        load bare limits = ⟨[], [], .error (.value (.validation bare.path.fileName
          ["expected a mapping of id to date-time string"]))⟩) := by
  obtain ⟨dateTimes, reads, loaded⟩ :=
    ofDocument_of_allRead wrapped.path (batchOf_wrapped (.dict entries)) all
  have outcome : (load wrapped limits).outcome = .ok dateTimes := by
    rw [load_eq hwrapped, show "datetimes" = wrapperKey from rfl, loaded]
  have mistaken : wrapperKey ∈ entries.map Prod.fst → load bare limits = ⟨[], [],
      .error (.value (.validation bare.path.fileName [noMapping]))⟩ := by
    intro here
    rw [load_eq hbare, ofDocument_of_mem all here]
  refine ⟨⟨dateTimes, reads, outcome⟩, ⟨fun same here => ?_, fun absent => ?_⟩, mistaken⟩
  · rw [outcome, mistaken here] at same
    cases same
  · obtain ⟨dateTimes', reads', loaded'⟩ :=
      ofDocument_of_allRead bare.path (batchOf_of_not_mem absent) all
    rw [outcome, load_eq hbare, loaded', reads'.unique reads]

/-- A batch with a key that is almost that of the wrapper, and with an empty one. -/
def nearlyWrapped : List (String × Value) :=
  [("Datetimes", .str "2020-09-24T13:21:00"), ("", .str "0000-01-01T00:00:00")]

/-- The bare file of the batch. -/
def bareFile : File :=
  fileOf "bare.json"
    "\x7b\"Datetimes\": \"2020-09-24T13:21:00\", \"\": \"0000-01-01T00:00:00\"\x7d"

/-- The wrapped file of the batch. -/
def wrappedFile : File :=
  fileOf "wrapped.json" "\x7b\"datetimes\": \x7b\"Datetimes\": \"2020-09-24T13:21:00\",
    \"\": \"0000-01-01T00:00:00\"\x7d\x7d"

set_option maxRecDepth 20000 in
theorem document_bareFile : bareFile.document .usual = .ok (.dict nearlyWrapped) :=
  rfl

set_option maxRecDepth 20000 in
theorem document_wrappedFile :
    wrappedFile.document .usual = .ok (.dict [("datetimes", .dict nearlyWrapped)]) :=
  rfl

/-- A key that is not that of the wrapper does no harm. -/
theorem load_bareFile_eq_load_wrappedFile :
    bareFile.document .usual = .ok (.dict nearlyWrapped) ∧
      wrappedFile.document .usual = .ok (.dict [("datetimes", .dict nearlyWrapped)]) ∧
      AllRead nearlyWrapped ∧
      (load bareFile .usual).outcome = (load wrappedFile .usual).outcome := by
  have all : AllRead nearlyWrapped :=
    allRead_cons.mpr ⟨⟨_, _, rfl, rfl⟩, allRead_cons.mpr ⟨⟨_, _, rfl, rfl⟩, nofun⟩⟩
  have same := (load_bare_eq_load_wrapped_iff document_bareFile document_wrappedFile all).2.1
  exact ⟨document_bareFile, document_wrappedFile, all, same.mpr (by decide)⟩

/-- A batch with the key of the wrapper. -/
def mistakenBatch : List (String × Value) :=
  [("datetimes", .str "2020-09-24T13:21:00")]

/-- The bare file of that batch, which is taken for a wrapped text. -/
def mistakenFile : File :=
  fileOf "bare.json" "\x7b\"datetimes\": \"2020-09-24T13:21:00\"\x7d"

/-- The wrapped file of that batch. -/
def twiceWrappedFile : File :=
  fileOf "wrapped.json"
    "\x7b\"datetimes\": \x7b\"datetimes\": \"2020-09-24T13:21:00\"\x7d\x7d"

set_option maxRecDepth 20000 in
theorem document_mistakenFile : mistakenFile.document .usual = .ok (.dict mistakenBatch) :=
  rfl

set_option maxRecDepth 20000 in
theorem document_twiceWrappedFile :
    twiceWrappedFile.document .usual = .ok (.dict [("datetimes", .dict mistakenBatch)]) :=
  rfl

/-- Not every bare batch of date-times is read as the wrapped one : the entry under the key of the
wrapper is in the way. -/
theorem not_load_bare_eq_load_wrapped : ¬∀ (bare wrapped : File) (limits : Limits)
    (entries : List (String × Value)), bare.document limits = .ok (.dict entries) →
    wrapped.document limits = .ok (.dict [("datetimes", .dict entries)]) → AllRead entries →
    ∃ dateTimes, (load bare limits).outcome = .ok dateTimes ∧
      (load wrapped limits).outcome = .ok dateTimes := by
  intro equivalent
  have all : AllRead mistakenBatch := allRead_cons.mpr ⟨⟨_, _, rfl, rfl⟩, nofun⟩
  obtain ⟨dateTimes, loaded, -⟩ := equivalent mistakenFile twiceWrappedFile .usual mistakenBatch
    document_mistakenFile document_twiceWrappedFile all
  rw [load_eq document_mistakenFile, ofDocument_of_mem all (by decide)] at loaded
  cases loaded

end CivilTime.Batch
