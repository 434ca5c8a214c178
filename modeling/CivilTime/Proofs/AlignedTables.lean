import CivilTime.Proofs.TextTables
import Mathlib.Algebra.GroupWithZero.Nat
import Mathlib.Data.List.Forall2

/-!
# Columns of a table of texts

The lines of a table of texts are put together from pieces, one for each column, with two blanks
between them. A piece is as wide as its column, which is as wide as the longest cell in it
(`isColumnWidth_of_textWidths`). So all lines of a table have one length, a column starts at the
same place in all of them, and each cell can be cut out again (`aligned_tableLines`).

A row with more cells than there are headers is noticed before anything is printed. The only other
thing that can go wrong is the margin, for which there may be no room in the memory, and which may
be too wide for an index (`table_of_texts`).
-/

namespace CivilTime.Report

/-! ## Pieces of a line -/

section Pieces

variable {α : Type}

theorem length_intercalate (sep : List α) (pieces : List (List α)) :
    (sep.intercalate pieces).length =
      (pieces.map List.length).sum + sep.length * (pieces.length - 1) := by
  induction pieces with
  | nil => rfl
  | cons piece rest ih =>
    cases rest with
    | nil => simp
    | cons next rest =>
      rw [List.intercalate_cons_cons, List.length_append, List.length_append, ih]
      simp only [List.map_cons, List.sum_cons, List.length_cons, Nat.add_sub_cancel, Nat.mul_add]
      omega

/-- What follows the pieces in front of one, and the separators behind them. -/
theorem drop_intercalate (sep : List α) {pieces : List (List α)} {i : Nat}
    (h : i < pieces.length) :
    (sep.intercalate pieces).drop (((pieces.take i).map List.length).sum + sep.length * i) =
      sep.intercalate (pieces.drop i) := by
  induction i generalizing pieces with
  | zero => simp
  | succ i ih =>
    match pieces, h with
    | piece :: next :: rest, h =>
      have later := @ih (next :: rest) (by simpa using h)
      rw [List.drop_succ_cons, ← later, List.intercalate_cons_cons, List.take_succ_cons,
        List.map_cons, List.sum_cons]
      have place : piece.length + ((List.take i (next :: rest)).map List.length).sum +
          sep.length * (i + 1) = (piece ++ sep).length +
            (((List.take i (next :: rest)).map List.length).sum + sep.length * i) := by
        rw [List.length_append, Nat.mul_add]
        omega
      rw [place, ← List.drop_drop, List.drop_left]

theorem take_intercalate (sep piece : List α) (rest : List (List α)) :
    (sep.intercalate (piece :: rest)).take piece.length = piece := by
  cases rest with
  | nil => simp
  | cons next rest => rw [List.intercalate_cons_cons, List.append_assoc, List.take_left]

theorem not_mem_intercalate {c : α} {sep : List α} {pieces : List (List α)} (hsep : c ∉ sep)
    (h : ∀ piece ∈ pieces, c ∉ piece) : c ∉ sep.intercalate pieces := by
  induction pieces with
  | nil => simp
  | cons piece rest ih =>
    obtain ⟨first, others⟩ := List.forall_mem_cons.mp h
    cases rest with
    | nil => simpa using first
    | cons next rest =>
      rw [List.intercalate_cons_cons]
      simp [first, hsep, ih others]

end Pieces

/-! ## Columns -/

/-- Whether a width is that of the longest cell in a column, its header included. Rows that end
before the column have no cell in it. -/
def IsColumnWidth (headers : List String) (rows : List (List String)) (i width : Nat) : Prop :=
  IsGreatest {n | ∃ row ∈ headers :: rows, ∃ cell, row[i]? = some cell ∧ cell.length = n} width

/-- What stands in a column of a line. Two blanks stand behind every column but the last. -/
def inColumn (indent : Nat) (widths : List Nat) (i : Nat) (line : String) : List Char :=
  (line.toList.drop (indent + (widths.take i).sum + 2 * i)).take (widths.getD i 0)

/-- Whether the cells of a line stand in their columns, each with nothing but blanks behind it. -/
def ShowsCells (indent : Nat) (widths : List Nat) (cells : List String) (line : String) : Prop :=
  ∀ i width, widths[i]? = some width → inColumn indent widths i line =
    (cells.getD i "").toList ++ List.replicate (width - (cells.getD i "").length) ' '

/-- Whether a line has a rule in every column. -/
def ShowsRule (indent : Nat) (widths : List Nat) (line : String) : Prop :=
  ∀ i width, widths[i]? = some width → inColumn indent widths i line = List.replicate width '-'

/-- Whether lines show headers, a rule and rows in columns that are as wide as their longest
cells. -/
structure Aligned (headers : List String) (rows : List (List String)) (indent : Nat)
    (widths : List Nat) (lines : List String) : Prop where
  columns : widths.length = headers.length
  width : ∀ i width, widths[i]? = some width → IsColumnWidth headers rows i width
  count : lines.length = 2 + rows.length
  length : ∀ line ∈ lines, line.length = indent + widths.sum + 2 * (headers.length - 1)
  shown : ∃ header rule body, lines = header :: rule :: body ∧
    ShowsCells indent widths headers header ∧ ShowsRule indent widths rule ∧
    List.Forall₂ (ShowsCells indent widths) rows body
  whole : (∀ row ∈ headers :: rows, ∀ cell ∈ row, '\n' ∉ cell.toList) →
    ∀ line ∈ lines, '\n' ∉ line.toList

/-! ## Widths of columns -/

variable {headers : List String} {rows : List (List String)}

theorem isColumnWidth_widenedFor {i : Nat} {header : String} (h : headers[i]? = some header) :
    IsColumnWidth headers rows i (widenedFor rows i header.length) := by
  obtain ⟨reached, bound⟩ :
      IsGreatest (insert header.length {n | ∃ row ∈ rows, cellLength row i = n})
        (widenedFor rows i header.length) :=
    isGreatest_foldl_max (fun row => cellLength row i) rows header.length
  have least : header.length ≤ widenedFor rows i header.length := bound (Set.mem_insert _ _)
  constructor
  · rcases reached with same | ⟨row, hrow, same⟩
    · exact ⟨headers, List.mem_cons_self, header, h, same.symm⟩
    · cases hcell : row[i]? with
      | some cell =>
        refine ⟨row, List.mem_cons_of_mem _ hrow, cell, hcell, ?_⟩
        simpa [cellLength, hcell] using same
      | none =>
        have zero : widenedFor rows i header.length = 0 := by
          simpa [cellLength, hcell] using same.symm
        refine ⟨headers, List.mem_cons_self, header, h, ?_⟩
        omega
  · rintro n ⟨row, hrow, cell, hcell, rfl⟩
    rcases List.mem_cons.mp hrow with rfl | hrow
    · obtain rfl := Option.some.inj (h.symm.trans hcell)
      exact least
    · refine bound (Or.inr ⟨row, hrow, ?_⟩)
      simp [cellLength, hcell]

theorem length_textWidths : (textWidths headers rows).length = headers.length := by
  simp [textWidths]

theorem isColumnWidth_of_textWidths {i width : Nat}
    (h : (textWidths headers rows)[i]? = some width) : IsColumnWidth headers rows i width := by
  rw [textWidths, List.getElem?_mapIdx, List.getElem?_map, Option.map_map] at h
  obtain ⟨header, hheader, rfl⟩ := Option.map_eq_some_iff.mp h
  exact isColumnWidth_widenedFor hheader

/-- Whether there is a cell for each column, and none that is wider than its column. -/
structure Fits (widths : List Nat) (cells : List String) : Prop where
  length : cells.length = widths.length
  le : ∀ i width, widths[i]? = some width → (cells.getD i "").length ≤ width

theorem getD_filledRow (headers row : List String) (i : Nat) :
    (filledRow headers row).getD i "" = row.getD i "" := by
  rw [filledRow, List.getD_eq_getElem?_getD, List.getD_eq_getElem?_getD, List.getElem?_append]
  split_ifs with inside
  · rfl
  · rw [List.getElem?_eq_none (Nat.not_lt.mp inside), List.getElem?_replicate]
    split_ifs <;> rfl

theorem fits_filledRow {row : List String} (hrow : row ∈ headers :: rows)
    (h : row.length ≤ headers.length) :
    Fits (textWidths headers rows) (filledRow headers row) where
  length := by
    rw [length_textWidths, filledRow, List.length_append, List.length_replicate]
    omega
  le i width hwidth := by
    rw [getD_filledRow]
    cases hcell : row[i]? with
    | none => simp [hcell]
    | some cell =>
      have bound := (isColumnWidth_of_textWidths hwidth).2 ⟨row, hrow, cell, hcell, rfl⟩
      simpa [hcell] using bound

theorem fits_headers : Fits (textWidths headers rows) headers := by
  have fits : Fits (textWidths headers rows) (filledRow headers headers) :=
    fits_filledRow List.mem_cons_self (Nat.le_refl _)
  rwa [filledRow, Nat.sub_self, List.replicate_zero, List.append_nil] at fits

/-! ## Lines -/

/-- Pieces with two blanks between them, behind a margin. -/
def joinedLine (margin : String) (pieces : List String) : String :=
  margin ++ "  ".intercalate pieces

section

variable {margin : String} {pieces : List String} {widths : List Nat}

theorem map_length_toList (pieces : List String) :
    (pieces.map String.toList).map List.length = pieces.map String.length := by
  rw [List.map_map]
  exact List.map_congr_left fun piece _ => String.length_toList

theorem length_joinedLine (h : pieces.map String.length = widths) :
    (joinedLine margin pieces).length = margin.length + widths.sum + 2 * (widths.length - 1) := by
  have two : "  ".toList.length = 2 := rfl
  rw [joinedLine, String.length_append, ← String.length_toList (s := "  ".intercalate pieces),
    String.toList_intercalate, length_intercalate, map_length_toList, h, two, List.length_map,
    ← h, List.length_map, Nat.add_assoc]

theorem inColumn_joinedLine (h : pieces.map String.length = widths) {i : Nat} {piece : String}
    (hpiece : pieces[i]? = some piece) :
    inColumn margin.length widths i (joinedLine margin pieces) = piece.toList := by
  obtain ⟨inside, rfl⟩ := List.getElem?_eq_some_iff.mp hpiece
  have two : "  ".toList.length = 2 := rfl
  have width : widths.getD i 0 = pieces[i].toList.length := by
    simp [← h, inside, String.length_toList]
  have start : (widths.take i).sum =
      (((pieces.map String.toList).take i).map List.length).sum := by
    rw [← List.map_take, map_length_toList, ← h, List.map_take]
  have later : (pieces.map String.toList).drop i =
      pieces[i].toList :: (pieces.map String.toList).drop (i + 1) := by
    rw [List.drop_eq_getElem_cons (by simpa using inside), List.getElem_map]
  rw [inColumn, joinedLine, String.toList_append, Nat.add_assoc, ← List.drop_drop,
    List.drop_left' String.length_toList, String.toList_intercalate, start, width, ← two,
    drop_intercalate _ (by simpa using inside), later, take_intercalate]

theorem newline_not_mem_joinedLine (hmargin : '\n' ∉ margin.toList)
    (h : ∀ piece ∈ pieces, '\n' ∉ piece.toList) : '\n' ∉ (joinedLine margin pieces).toList := by
  rw [joinedLine, String.toList_append, List.mem_append, not_or, String.toList_intercalate]
  exact ⟨hmargin, not_mem_intercalate (by decide) (List.forall_mem_map.mpr h)⟩

end

/-! ## Lines of cells and rules -/

section

variable {margin : String} {widths : List Nat} {cells : List String}

theorem Fits.exists_cell (h : Fits widths cells) {i width : Nat}
    (hwidth : widths[i]? = some width) :
    ∃ cell, cells[i]? = some cell ∧ cells.getD i "" = cell ∧ cell.length ≤ width := by
  have inside := h.length ▸ (List.getElem?_eq_some_iff.mp hwidth).1
  have found : cells[i]? = some cells[i] := List.getElem?_eq_getElem inside
  have same : cells.getD i "" = cells[i] := by simp [inside]
  exact ⟨_, found, same, same ▸ h.le i width hwidth⟩

/-- Cells that fit are filled up to the widths of their columns. -/
theorem Fits.map_length (h : Fits widths cells) :
    (List.zipWith Text.padRight widths cells).map String.length = widths := by
  refine List.ext_getElem? fun i => ?_
  rw [List.getElem?_map, List.getElem?_zipWith]
  cases hwidth : widths[i]? with
  | none => rfl
  | some width =>
    obtain ⟨cell, hcell, -, le⟩ := h.exists_cell hwidth
    simp [hcell, Text.length_padRight, le]

theorem Fits.showsCells_textLine (h : Fits widths cells) :
    ShowsCells margin.length widths cells (textLine margin widths cells) := by
  intro i width hwidth
  obtain ⟨cell, hcell, same, -⟩ := h.exists_cell hwidth
  have piece : (List.zipWith Text.padRight widths cells)[i]? = some (Text.padRight width cell) := by
    rw [List.getElem?_zipWith, hwidth, hcell]
  rw [textLine, ← joinedLine, inColumn_joinedLine h.map_length piece, same, Text.padRight,
    String.toList_append, Text.toList_blanks]

theorem map_length_dashes : (widths.map Text.dashes).map String.length = widths := by
  rw [List.map_map]
  conv_rhs => rw [← List.map_id widths]
  exact List.map_congr_left fun width _ => Text.length_dashes width

theorem showsRule_rule : ShowsRule margin.length widths (rule margin widths) := by
  intro i width hwidth
  have piece : (widths.map Text.dashes)[i]? = some (Text.dashes width) := by
    rw [List.getElem?_map, hwidth]
    rfl
  rw [rule, ← joinedLine, inColumn_joinedLine map_length_dashes piece, Text.toList_dashes]

theorem newline_not_mem_textLine (hmargin : '\n' ∉ margin.toList)
    (h : ∀ cell ∈ cells, '\n' ∉ cell.toList) : '\n' ∉ (textLine margin widths cells).toList := by
  refine newline_not_mem_joinedLine hmargin fun piece hpiece => ?_
  rw [← List.map_uncurry_zip_eq_zipWith] at hpiece
  obtain ⟨⟨width, cell⟩, hpair, rfl⟩ := List.mem_map.mp hpiece
  simp [Text.padRight, h cell (List.of_mem_zip hpair).2]

theorem newline_not_mem_rule (hmargin : '\n' ∉ margin.toList) :
    '\n' ∉ (rule margin widths).toList := by
  refine newline_not_mem_joinedLine hmargin fun piece hpiece => ?_
  obtain ⟨width, -, rfl⟩ := List.mem_map.mp hpiece
  simp

end

theorem showsCells_filledRow {margin : String} {row : List String} (hrow : row ∈ rows)
    (h : row.length ≤ headers.length) :
    ShowsCells margin.length (textWidths headers rows) row
      (textLine margin (textWidths headers rows) (filledRow headers row)) := by
  intro i width hwidth
  rw [(fits_filledRow (List.mem_cons_of_mem _ hrow) h).showsCells_textLine i width hwidth,
    getD_filledRow]

/-- The lines of a table of texts are aligned. -/
theorem aligned_tableLines {margin : String} (hmargin : '\n' ∉ margin.toList)
    (h : ∀ row ∈ rows, row.length ≤ headers.length) :
    Aligned headers rows margin.length (textWidths headers rows)
      (tableLines margin headers rows) where
  columns := length_textWidths
  width i width := isColumnWidth_of_textWidths
  count := by
    rw [tableLines, List.length_cons, List.length_cons, List.length_map]
    omega
  length := by
    have wide {cells : List String} (fits : Fits (textWidths headers rows) cells) :
        (textLine margin (textWidths headers rows) cells).length =
          margin.length + (textWidths headers rows).sum + 2 * (headers.length - 1) := by
      rw [textLine, ← joinedLine, length_joinedLine fits.map_length, length_textWidths]
    rw [tableLines, List.forall_mem_cons, List.forall_mem_cons, List.forall_mem_map]
    refine ⟨wide fits_headers, ?_, fun row hrow =>
      wide (fits_filledRow (List.mem_cons_of_mem _ hrow) (h row hrow))⟩
    rw [rule, ← joinedLine, length_joinedLine map_length_dashes, length_textWidths]
  shown := by
    refine ⟨_, _, _, rfl, fits_headers.showsCells_textLine, showsRule_rule, ?_⟩
    rw [List.forall₂_map_right_iff, List.forall₂_same]
    exact fun row hrow => showsCells_filledRow hrow (h row hrow)
  whole := by
    intro clean
    obtain ⟨cleanHeaders, cleanRows⟩ := List.forall_mem_cons.mp clean
    rw [tableLines, List.forall_mem_cons, List.forall_mem_cons, List.forall_mem_map]
    refine ⟨newline_not_mem_textLine hmargin cleanHeaders, newline_not_mem_rule hmargin,
      fun row hrow => newline_not_mem_textLine hmargin fun cell hcell => ?_⟩
    rcases List.mem_append.mp hcell with inside | missing
    · exact cleanRows row hrow cell inside
    · rw [List.eq_of_mem_replicate missing]
      decide

/-! ## Rows with too many cells -/

theorem widen_texts_of_gt {widths : List Nat} {row : List String} (h : widths.length < row.length) :
    widen widths (row.map .str) = .error (.index (.outOfRange "list")) := by
  induction row generalizing widths with
  | nil => simp at h
  | cons cell row ih =>
    cases widths with
    | nil => rfl
    | cons width widths =>
      rw [List.map_cons, widen, ih (by simpa using h)]
      rfl

theorem foldlM_widen_of_gt {widths : List Nat} {row : List String} (hrow : row ∈ rows)
    (h : widths.length < row.length) :
    (rows.map textRow).foldlM (fun widths row => do widen widths (← row.items)) widths =
      .error (.index (.outOfRange "list")) := by
  induction rows generalizing widths with
  | nil => simp at hrow
  | cons first rest ih =>
    rw [List.map_cons, List.foldlM_cons, items_textRow, Attempt.ok_bind]
    by_cases fits : first.length ≤ widths.length
    · have later : row ∈ rest := by
        refine (List.mem_cons.mp hrow).resolve_left ?_
        rintro rfl
        omega
      rw [widen_texts fits, Attempt.ok_bind, ih later (by simpa using h)]
    · rw [widen_texts_of_gt (Nat.not_le.mp fits), Attempt.error_bind]

/-- A row with more cells than there are headers has no columns. -/
theorem columnWidths_of_gt {row : List String} (hrow : row ∈ rows)
    (h : headers.length < row.length) :
    columnWidths (textRow headers) (.list (rows.map textRow)) =
      .error (.index (.outOfRange "list")) := by
  have items : (Value.list (rows.map textRow)).items = .ok (rows.map textRow) := rfl
  rw [columnWidths, items_textRow, Attempt.ok_bind, mapM_length_texts, Attempt.ok_bind, items,
    Attempt.ok_bind, foldlM_widen_of_gt hrow (by simpa using h)]

/-! ## Tables -/

/-- Whether an aligned table is printed, and nothing else. -/
def Tabulated (headers : List String) (rows : List (List String)) (indent : Nat)
    (printing : Traced Unit) : Prop :=
  ∃ widths lines, Aligned headers rows indent widths lines ∧
    printing.output = String.join (lines.map (· ++ "\n")) ∧ printing.outcome = .ok ()

/-- Whether a failure is met before anything is printed. -/
def FailsUnprinted (cause : Failure) (printing : Traced Unit) : Prop :=
  printing.output = "" ∧ printing.outcome = .error cause

section

variable {limits : Limits}

theorem tabulated_of_le {indent : Nat} (h : ∀ row ∈ rows, row.length ≤ headers.length)
    (index : indent < Value.indexRange) (room : indent ≤ limits.items) :
    Tabulated headers rows indent
      (table (textRow headers) (.list (rows.map textRow)) (.int indent) limits) := by
  have clean : '\n' ∉ (Text.blanks indent).toList := by simp
  have aligned := aligned_tableLines clean h
  rw [Text.length_blanks] at aligned
  rw [table_texts h (indentation_of_le index room)]
  exact ⟨_, _, aligned, rfl, rfl⟩

theorem failsUnprinted_of_margin {indent : Value} {cause : Failure}
    (h : ∀ row ∈ rows, row.length ≤ headers.length)
    (hmargin : indentation limits indent = .error cause) :
    FailsUnprinted cause (table (textRow headers) (.list (rows.map textRow)) indent limits) := by
  simp only [table, columnWidths_texts h, hmargin, Traced.lift_eq, Traced.bind_ok,
    Traced.bind_error]
  exact ⟨rfl, rfl⟩

theorem failsUnprinted_of_gt {row : List String} (hrow : row ∈ rows)
    (h : headers.length < row.length) (indent : Value) :
    FailsUnprinted (.index (.outOfRange "list"))
      (table (textRow headers) (.list (rows.map textRow)) indent limits) := by
  simp only [table, columnWidths_of_gt hrow h, Traced.lift_eq, Traced.bind_error]
  exact ⟨rfl, rfl⟩

end

/-- A table of texts is refused if a row has more cells than there are headers. Else it is printed
with its columns aligned, whatever memory there is, as long as this has room for the margin and the
margin is not too wide for an index. -/
theorem table_of_texts (limits : Limits) (headers : List String) (rows : List (List String))
    (indent : Nat) :
    ((∃ row ∈ rows, headers.length < row.length) →
      FailsUnprinted (.index (.outOfRange "list"))
        (table (textRow headers) (.list (rows.map textRow)) (.int indent) limits)) ∧
    ((∀ row ∈ rows, row.length ≤ headers.length) →
      (indent < Value.indexRange → indent ≤ limits.items → Tabulated headers rows indent
        (table (textRow headers) (.list (rows.map textRow)) (.int indent) limits)) ∧
      (indent < Value.indexRange → limits.items < indent → FailsUnprinted .memory
        (table (textRow headers) (.list (rows.map textRow)) (.int indent) limits)) ∧
      (Value.indexRange ≤ indent → FailsUnprinted (.range (.toIndex "int"))
        (table (textRow headers) (.list (rows.map textRow)) (.int indent) limits))) := by
  refine ⟨?_, fun h => ⟨tabulated_of_le h, fun index room => ?_, fun wide => ?_⟩⟩
  · rintro ⟨row, hrow, long⟩
    exact failsUnprinted_of_gt hrow long _
  · exact failsUnprinted_of_margin h (indentation_of_gt index room)
  · exact failsUnprinted_of_margin h (indentation_of_indexRange_le wide)

/-- Limits with more memory than any machine has. -/
def vastMemory : Limits :=
  { Limits.usual with items := Nat.pow 2 62, hundred_le := by decide }

/-- Ragged rows are aligned behind a margin. A margin for which even a vast memory has no room is
refused, and so is one cell too many. -/
theorem table_of_raggedTexts :
    Tabulated ["id", ""] [["north", "x"], []] 1
      (table (textRow ["id", ""]) (.list ([["north", "x"], []].map textRow)) (.int 1) .usual) ∧
    FailsUnprinted .memory
      (table (textRow ["id", ""]) (.list ([["north", "x"], []].map textRow))
        (.int 4611686018427387905) vastMemory) ∧
    FailsUnprinted (.index (.outOfRange "list"))
      (table (textRow ["id"]) (.list ([["a", "b"]].map textRow)) (.int 1) .usual) :=
  ⟨((table_of_texts .usual ["id", ""] [["north", "x"], []] 1).2 (by decide)).1 (by decide)
      (by decide),
    ((table_of_texts vastMemory ["id", ""] [["north", "x"], []] 4611686018427387905).2
      (by decide)).2.1 (by decide) (by decide),
    (table_of_texts .usual ["id"] [["a", "b"]] 1).1 ⟨_, List.mem_cons_self, by decide⟩⟩

/-- Not every table of rows that are short enough is printed : a margin may be too wide for an
index. -/
theorem not_tabulated_of_margin : ¬∀ (limits : Limits) (headers : List String)
    (rows : List (List String)) (indent : Nat), headers ≠ [] →
    (∀ row ∈ rows, row.length ≤ headers.length) → Tabulated headers rows indent
      (table (textRow headers) (.list (rows.map textRow)) (.int indent) limits) := by
  intro tabulated
  have fits : ∀ row ∈ ([] : List (List String)), row.length ≤ ["a"].length := nofun
  obtain ⟨widths, lines, -, -, printed⟩ :=
    tabulated .usual ["a"] [] Value.indexRange (by decide) fits
  have wide : indentation .usual (.int Value.indexRange) = _ :=
    indentation_of_indexRange_le (Nat.le_refl Value.indexRange)
  obtain ⟨-, failed⟩ := failsUnprinted_of_margin fits wide
  rw [failed] at printed
  cases printed

end CivilTime.Report
