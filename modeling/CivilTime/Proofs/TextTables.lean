import CivilTime.Proofs.Fields
import CivilTime.Report.Sections
import Mathlib.Data.List.Basic
import Mathlib.Order.Bounds.Basic

/-!
# Tables of texts

In a table of texts a column is as wide as its header or the longest cell in it (`textWidths`), and
cells are filled up with blanks to the widths of their columns. A row that has no more cells than
there are headers is filled up with blank cells. So the table of such rows is printed without a
failure, behind a margin that can be made : a line for the headers, one of dashes, and one for each
row (`table_texts`). A margin of blanks can be made if their number is an index and the memory has
room for so many (`indentation_of_le`), and that of a table that says nothing else always can be
(`indentation_tableIndent`).
-/

namespace CivilTime.Report

/-! ## Widths -/

/-- Widening for the sizes of some items one after the other gives the greatest of them, or what was
there before. -/
theorem isGreatest_foldl_max {α : Type} (size : α → Nat) (items : List α) (start : Nat) :
    IsGreatest (insert start {n | ∃ a ∈ items, size a = n})
      (items.foldl (fun width a => max width (size a)) start) := by
  induction items generalizing start with
  | nil => simp [IsGreatest, upperBounds]
  | cons a rest ih =>
    obtain ⟨reached, bound⟩ := ih (max start (size a))
    have first : max start (size a) ≤ (a :: rest).foldl (fun width b => max width (size b)) start :=
      bound (Set.mem_insert _ _)
    constructor
    · rcases reached with same | ⟨b, hb, same⟩
      · rw [List.foldl_cons, same]
        rcases le_total start (size a) with h | h
        · exact Or.inr ⟨a, List.mem_cons_self, (max_eq_right h).symm⟩
        · exact Or.inl (max_eq_left h)
      · exact Or.inr ⟨b, List.mem_cons_of_mem a hb, same⟩
    · rintro n (rfl | ⟨b, hb, rfl⟩)
      · exact le_trans (le_max_left _ _) first
      · rcases List.mem_cons.mp hb with rfl | hb
        · exact le_trans (le_max_right _ _) first
        · exact bound (Or.inr ⟨b, hb, rfl⟩)

/-- The length of a cell of a row. A cell that is missing has none. -/
def cellLength (row : List String) (i : Nat) : Nat :=
  (row[i]?.map String.length).getD 0

/-- The width of a column, widened for its cells in some rows. -/
def widenedFor (rows : List (List String)) (i width : Nat) : Nat :=
  rows.foldl (fun width row => max width (cellLength row i)) width

/-- The widths of the columns of a table of texts. -/
def textWidths (headers : List String) (rows : List (List String)) : List Nat :=
  (headers.map String.length).mapIdx (widenedFor rows)

theorem mapIdx_self (widths : List Nat) : widths.mapIdx (fun _ width => width) = widths :=
  List.ext_getElem (by simp) (by simp)

theorem items_textRow (row : List String) : (textRow row).items = .ok (row.map .str) := rfl

theorem widen_texts {widths : List Nat} {row : List String} (h : row.length ≤ widths.length) :
    widen widths (row.map .str) =
      .ok (widths.mapIdx fun i width => max width (cellLength row i)) := by
  induction row generalizing widths with
  | nil =>
    have untouched : (fun (i width : Nat) => max width (cellLength [] i)) =
        fun _ width => width := by
      funext i width
      simp [cellLength]
    rw [untouched, mapIdx_self]
    cases widths <;> rfl
  | cons cell row ih =>
    cases widths with
    | nil => simp at h
    | cons width widths =>
      have others : widen widths (row.map .str) =
          .ok (widths.mapIdx fun i width => max width (cellLength row i)) :=
        ih (by simpa using h)
      rw [List.map_cons, widen, others]
      simp [Value.length, cellLength]

theorem foldlM_widen_texts {widths : List Nat} {rows : List (List String)}
    (h : ∀ row ∈ rows, row.length ≤ widths.length) :
    (rows.map textRow).foldlM (fun widths row => do widen widths (← row.items)) widths =
      .ok (widths.mapIdx (widenedFor rows)) := by
  induction rows generalizing widths with
  | nil => rw [show widenedFor [] = fun _ width => width from rfl, mapIdx_self]; rfl
  | cons row rows ih =>
    obtain ⟨first, others⟩ := List.forall_mem_cons.mp h
    rw [List.map_cons, List.foldlM_cons, items_textRow, Attempt.ok_bind, widen_texts first,
      Attempt.ok_bind, ih (by simpa using others), List.mapIdx_mapIdx]
    rfl

theorem mapM_length_texts (texts : List String) :
    (texts.map Value.str).mapM Value.length = (.ok (texts.map String.length) : Attempt _) := by
  rw [List.mapM_map]
  exact List.mapM_pure

/-- The columns of a table of texts are as wide as their headers and their longest cells. -/
theorem columnWidths_texts {headers : List String} {rows : List (List String)}
    (h : ∀ row ∈ rows, row.length ≤ headers.length) :
    columnWidths (textRow headers) (.list (rows.map textRow)) = .ok (textWidths headers rows) := by
  have items : (Value.list (rows.map textRow)).items = .ok (rows.map textRow) := rfl
  rw [columnWidths, items_textRow, Attempt.ok_bind, mapM_length_texts, Attempt.ok_bind, items,
    Attempt.ok_bind, foldlM_widen_texts (by simpa using h), textWidths]

/-! ## Margins -/

section

variable {limits : Limits} {indent : Nat}

theorem repeatCount_int (h : indent < Value.indexRange) :
    repeatCount (.int indent) = .ok (indent : Int) := by
  have inside : Value.isIndex (indent : Int) = true := by
    simp only [Value.isIndex, Bool.and_eq_true, decide_eq_true_eq]
    omega
  simp [repeatCount, Value.integer?, inside]

theorem indentation_of_le (index : indent < Value.indexRange) (h : indent ≤ limits.items) :
    indentation limits (.int indent) = .ok (Text.blanks indent) := by
  have short : ¬limits.items < [' '].length * (indent : Int).toNat := by
    rw [List.length_singleton, Nat.one_mul, Int.toNat_natCast]
    exact Nat.not_lt.mpr h
  have margin : (List.replicate indent [' ']).flatten = List.replicate indent ' ' := by
    simp
  rw [indentation, repeatCount_int index, Attempt.ok_bind, Value.repeated,
    if_neg (List.cons_ne_nil _ _), if_neg short, Int.toNat_natCast, margin]
  rfl

/-- There may be no room for a margin in the memory. -/
theorem indentation_of_gt (index : indent < Value.indexRange) (h : limits.items < indent) :
    indentation limits (.int indent) = .error .memory := by
  have long : limits.items < [' '].length * (indent : Int).toNat := by
    rwa [List.length_singleton, Nat.one_mul, Int.toNat_natCast]
  rw [indentation, repeatCount_int index, Attempt.ok_bind, Value.repeated,
    if_neg (List.cons_ne_nil _ _), if_pos long, Attempt.error_bind]

/-- A margin that is too wide for an index is not even tried. -/
theorem indentation_of_indexRange_le (h : Value.indexRange ≤ indent) :
    indentation limits (.int indent) = .error (.range (.toIndex "int")) := by
  have outside : Value.isIndex (indent : Int) = false := by
    simp only [Value.isIndex, Bool.and_eq_false_iff, decide_eq_false_iff_not]
    omega
  have refused : repeatCount (.int indent) = .error (.range (.toIndex "int")) := by
    simp [repeatCount, Value.integer?, outside, Value.typeName]
  rw [indentation, refused, Attempt.error_bind]

/-- There is always room for the margin of a table that says nothing else. -/
theorem indentation_tableIndent (limits : Limits) :
    indentation limits tableIndent = .ok "    " :=
  indentation_of_le (by decide) (Nat.le_trans (by decide) limits.hundred_le)

end

/-! ## Lines -/

/-- A line of texts in their columns. -/
def textLine (margin : String) (widths : List Nat) (cells : List String) : String :=
  margin ++ "  ".intercalate (List.zipWith Text.padRight widths cells)

/-- A row with blank cells in the place of those that are missing. -/
def filledRow (headers row : List String) : List String :=
  row ++ List.replicate (headers.length - row.length) ""

/-- The lines of a table of texts. -/
def tableLines (margin : String) (headers : List String) (rows : List (List String)) :
    List String :=
  let widths := textWidths headers rows
  textLine margin widths headers :: rule margin widths ::
    rows.map fun row => textLine margin widths (filledRow headers row)

theorem cellTexts_texts (widths : List Nat) (cells : List String) :
    cellTexts widths (cells.map .str) = .ok (List.zipWith Text.padRight widths cells) := by
  induction cells generalizing widths with
  | nil => cases widths <;> rfl
  | cons cell cells ih =>
    cases widths with
    | nil => rfl
    | cons width widths =>
      rw [List.map_cons, cellTexts, ih]
      rfl

theorem line_texts (margin : String) (widths : List Nat) (cells : List String) :
    line margin widths (cells.map .str) = .ok (textLine margin widths cells) := by
  rw [line, cellTexts_texts]
  rfl

theorem paddedRow_texts (headers row : List String) :
    paddedRow (textRow headers) (textRow row) = .ok ((filledRow headers row).map .str) := by
  simp [paddedRow, textRow, Value.length, Value.combine, Value.items, Value.items?, filledRow]

theorem printRow_texts (margin : String) (widths : List Nat) (headers row : List String) :
    printRow margin widths (textRow headers) (textRow row) =
      Traced.print (textLine margin widths (filledRow headers row)) := by
  rw [printRow, paddedRow_texts, Traced.lift_eq, Traced.bind_ok, line_texts]
  rfl

/-! ## Tables -/

theorem forM_printRow_texts (margin : String) (widths : List Nat) (headers : List String)
    (rows : List (List String)) :
    (rows.map textRow).forM (printRow margin widths (textRow headers)) =
      ⟨rows.map fun row => textLine margin widths (filledRow headers row), [], .ok ()⟩ := by
  induction rows with
  | nil => rfl
  | cons row rows ih =>
    have first : (textRow row :: rows.map textRow).forM (printRow margin widths (textRow headers)) =
        printRow margin widths (textRow headers) (textRow row) >>= fun _ =>
          (rows.map textRow).forM (printRow margin widths (textRow headers)) := rfl
    rw [List.map_cons, first, printRow_texts, ih]
    rfl

/-- A table of rows that have no more cells than there are headers is printed line by line. -/
theorem table_texts {headers : List String} {rows : List (List String)} {indent : Value}
    {limits : Limits} {margin : String} (h : ∀ row ∈ rows, row.length ≤ headers.length)
    (hmargin : indentation limits indent = .ok margin) :
    table (textRow headers) (.list (rows.map textRow)) indent limits =
      ⟨tableLines margin headers rows, [], .ok ()⟩ := by
  have items : (Value.list (rows.map textRow)).items = .ok (rows.map textRow) := rfl
  simp only [table, columnWidths_texts h, hmargin, items_textRow, line_texts, items,
    forM_printRow_texts, Traced.lift_eq, Traced.bind_ok, Traced.print,
    List.nil_append, List.singleton_append, tableLines]

end CivilTime.Report
