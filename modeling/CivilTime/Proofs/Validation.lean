import CivilTime.Proofs.Batches

/-!
# What is found in a batch

Every entry of a batch is looked at by itself. If its value is a text that is read as a date-time,
nothing is found in it; else one message is, which begins with its key (`finding?`). A record is
left for a text that is refused and for nothing else (`rejection?`). So the messages about a batch
and the records of it are those of its entries, one after the other
(`Examined.eq_findings_rejections`), and mappings without a common key are gone through one after
the other, too (`findings_append`, `rejections_append`).
-/

namespace CivilTime.Batch

/-! ## Entries -/

/-- Whether a value is a text that is read as a date-time. -/
def IsRead (v : Value) : Prop :=
  ∃ text dt, v = .str text ∧ (DateTime.parse (.str text)).outcome = .ok dt

/-- The message about an entry, if its value is not a text that is read as a date-time. -/
def finding? (key : String) : Value → Option String
  | .str text =>
    match (DateTime.parse (.str text)).outcome with
    | .ok _ => none
    | .error cause => some (key ++ ": " ++ cause.message)
  | v => some (key ++ ": expected a string, got " ++ v.typeName)

/-- The record of a value, if it is a text that is refused. -/
def rejection? : Value → Option LogRecord
  | .str text =>
    match (DateTime.parse (.str text)).outcome with
    | .error (.dateTime e) => some (.rejected text e)
    | _ => none
  | _ => none

section

variable (key : String) {text : String}

theorem finding?_of_read {dt : DateTime}
    (h : (DateTime.parse (.str text)).outcome = .ok dt) : finding? key (.str text) = none := by
  simp only [finding?, h]

theorem finding?_of_refused {e : DateTimeError}
    (h : (DateTime.parse (.str text)).outcome = .error (.dateTime e)) :
    finding? key (.str text) = some (key ++ ": " ++ e.message) := by
  simp only [finding?, h]
  rfl

theorem finding?_of_not_str {v : Value} (h : ∀ text, v ≠ .str text) :
    finding? key v = some (key ++ ": expected a string, got " ++ v.typeName) := by
  cases v with
  | str text => exact absurd rfl (h text)
  | _ => rfl

theorem rejection?_of_read {dt : DateTime}
    (h : (DateTime.parse (.str text)).outcome = .ok dt) : rejection? (.str text) = none := by
  simp only [rejection?, h]

theorem rejection?_of_refused {e : DateTimeError}
    (h : (DateTime.parse (.str text)).outcome = .error (.dateTime e)) :
    rejection? (.str text) = some (.rejected text e) := by
  simp only [rejection?, h]

theorem rejection?_of_not_str {v : Value} (h : ∀ text, v ≠ .str text) : rejection? v = none := by
  cases v with
  | str text => exact absurd rfl (h text)
  | _ => rfl

/-- Nothing is found in an entry exactly if its value is a text that is read as a date-time. -/
theorem finding?_eq_none_iff {v : Value} : finding? key v = none ↔ IsRead v := by
  constructor
  · intro clean
    by_cases str : ∃ text, v = .str text
    · obtain ⟨text, rfl⟩ := str
      cases outcome : (DateTime.parse (.str text)).outcome with
      | ok dt => exact ⟨text, dt, rfl, outcome⟩
      | error cause =>
        obtain ⟨e, rfl⟩ := DateTime.exists_of_outcome_parse outcome
        rw [finding?_of_refused key outcome] at clean
        cases clean
    · rw [finding?_of_not_str key (not_exists.mp str)] at clean
      cases clean
  · rintro ⟨text, dt, rfl, read⟩
    exact finding?_of_read key read

end

/-! ## Batches -/

/-- The messages about the entries of a batch, in their order. -/
def findings (entries : List (String × Value)) : List String :=
  entries.filterMap fun e => finding? e.1 e.2

/-- The records of the values of a batch, in their order. -/
def rejections (entries : List (String × Value)) : List LogRecord :=
  entries.filterMap fun e => rejection? e.2

theorem findings_append (entries others : List (String × Value)) :
    findings (entries ++ others) = findings entries ++ findings others :=
  List.filterMap_append

theorem rejections_append (entries others : List (String × Value)) :
    rejections (entries ++ others) = rejections entries ++ rejections others :=
  List.filterMap_append

theorem findings_eq_nil_iff {entries : List (String × Value)} :
    findings entries = [] ↔ ∀ e ∈ entries, IsRead e.2 := by
  rw [findings, List.filterMap_eq_nil_iff]
  exact forall₂_congr fun e _ => finding?_eq_none_iff e.1

/-- What the first pass finds and records is what there is to find and record in the entries. -/
theorem Examined.eq_findings_rejections {entries : List (String × Value)} {found : List String}
    {log : List LogRecord} (h : Examined entries found log) :
    found = findings entries ∧ log = rejections entries := by
  unfold findings rejections
  induction h with
  | nil => exact ⟨rfl, rfl⟩
  | @read key text dt _ _ _ read _ ih =>
    simp only [List.filterMap_cons, finding?_of_read key read, rejection?_of_read read, ih.1, ih.2,
      and_self]
  | @refused key text e _ _ _ refused _ ih =>
    simp only [List.filterMap_cons, finding?_of_refused key refused,
      rejection?_of_refused refused, ih.1, ih.2, and_self]
  | @noText key v _ _ _ noText _ ih =>
    simp only [List.filterMap_cons, finding?_of_not_str key noText, rejection?_of_not_str noText,
      ih.1, ih.2, and_self]

theorem complaints_eq (entries : List (String × Value)) :
    complaints entries = ⟨[], rejections entries, .ok (findings entries)⟩ := by
  obtain ⟨found, log, examined⟩ := exists_examined entries
  obtain ⟨rfl, rfl⟩ := examined.eq_findings_rejections
  exact examined.complaints_eq

/-- A batch of any values is gone through without a failure. There is a message about each entry
whose value is not a text that is read, none about the others, and a record of each text that is
refused, all of them in the order of the entries. So no message is left exactly if all values are
texts that are read, and two mappings without a common key that are put together give the messages
and the records of the first one and then those of the second. -/
theorem complaints_eq_findings (entries : List (String × Value)) :
    complaints entries = ⟨[], rejections entries, .ok (findings entries)⟩ ∧
      (∀ e ∈ entries, finding? e.1 e.2 = none ↔ IsRead e.2) ∧
      (findings entries = [] ↔ ∀ e ∈ entries, IsRead e.2) ∧
      ∀ others, ((entries ++ others).map Prod.fst).Nodup →
        mappingOf (entries ++ others) = entries ++ others ∧
          complaints (mappingOf (entries ++ others)) =
            ⟨[], rejections entries ++ rejections others,
              .ok (findings entries ++ findings others)⟩ := by
  refine ⟨complaints_eq entries, fun e _ => finding?_eq_none_iff e.1, findings_eq_nil_iff,
    fun others keys => ?_⟩
  have together : mappingOf (entries ++ others) = entries ++ others := mappingOf_of_nodup keys
  refine ⟨together, ?_⟩
  rw [together, complaints_eq, rejections_append, findings_append]

/-- A text that is read and one that is refused. -/
def twoTexts : List (String × Value) :=
  [("a", .str "2020-09-24T13:21:00"), ("b", .str "2020-13-01T00:00:00")]

/-- A field and a mapping, the latter under the empty key. -/
def noTexts : List (String × Value) :=
  [("c", .field (.standard .month) (.int 3)), ("", .dict [("a", .null)])]

/-- Three of four entries are complained about, and one of them leaves a record. -/
theorem complaints_twoTexts_noTexts :
    ((twoTexts ++ noTexts).map Prod.fst).Nodup ∧
      complaints (mappingOf (twoTexts ++ noTexts)) =
        ⟨[], [.rejected "2020-13-01T00:00:00" (.overflow (.str "Month") (.int 12))],
          .ok ["b: Month must be between 0-12", "c: expected a string, got Month",
            ": expected a string, got dict"]⟩ := by
  have keys : ((twoTexts ++ noTexts).map Prod.fst).Nodup := by decide
  obtain ⟨-, together⟩ := (complaints_eq_findings twoTexts).2.2.2 noTexts keys
  have records : rejections twoTexts ++ rejections noTexts =
      [.rejected "2020-13-01T00:00:00" (.overflow (.str "Month") (.int 12))] := rfl
  have messages : findings twoTexts ++ findings noTexts =
      ["b: Month must be between 0-12", "c: expected a string, got Month",
        ": expected a string, got dict"] := rfl
  rw [records, messages] at together
  exact ⟨keys, together⟩

end CivilTime.Batch
