import Mathlib.Data.List.Basic
import TracePlayer.Pane.StructureLines

/-
  This file proves that the cells of an array and the labels
  under them line up. The two lines have spans of the same
  widths, so that they share all columns; every other span is
  a cell or its label. Cells are padded to a width, and too
  wide ones cannot be.

  Main declarations:
    * `Centred`, `centred_spaced`
    * `Line.columnOf`, `columnOf_cellLine`
    * `ArrayCell.row_eq`, `cellLine_getElem?`
    * `SequenceEntry.labelText`, `arrayCells_getElem?`
    * `cells_over_labels`, `wide_cell_not_drawn`
-/

namespace TracePlayer

------------------------------------------------------------
-- Padding
------------------------------------------------------------

/-
  Whether a text is shown with blanks on both sides, as many
  on the right as on the left or one more.
-/
def Centred (text shown : String) : Prop :=
  ∃ before after,
    shown.toList =
        List.replicate before ' ' ++ text.toList ++
          List.replicate after ' ' ∧
      0 < before ∧ before ≤ after ∧ after ≤ before + 1

theorem length_padAround
    {width : Nat}
    {text : List Char}
    (hFits : text.length ≤ width) :
    (padAround width text).length = width := by
  simp only [padAround, List.length_append,
    List.length_replicate]
  omega

theorem length_spaced (text : List Char) :
    (spaced text).length = text.length + 2 := by
  rw [spaced, String.length_ofList]
  simp

/- A padded text between spaces is centred. -/
theorem centred_spaced
    (width : Nat)
    (text : String) :
    Centred text (spaced (padAround width text.toList)) := by
  let space := width - text.toList.length
  refine ⟨space / 2 + 1, space - space / 2 + 1, ?_, by omega,
    by omega, by omega⟩
  rw [spaced, String.toList_ofList, List.replicate_succ,
    List.replicate_succ', padAround]
  simp [space]

------------------------------------------------------------
-- Rows
------------------------------------------------------------

/- The characters of a line in front of one of its spans. -/
def Line.columnOf
    (line : Line)
    (index : Nat) : Nat :=
  ((line.spans.take index).flatMap fun span =>
    span.text.toList).length

namespace ArrayCell

/- The text of a cell, without what separates it from others. -/
def cellSpan (cell : ArrayCell) : Span :=
  ⟨spaced (padAround cell.width cell.text),
    cellStyle cell.isNew⟩

def labelSpan (cell : ArrayCell) : Span :=
  ⟨spaced (padAround cell.width cell.label),
    Style.colour Theme.pointer⟩

def bar : Span :=
  ⟨"|", muted⟩

def gap : Span :=
  ⟨" ", Style.plain⟩

theorem length_separators :
    bar.text.length = 1 ∧ gap.text.length = 1 := by
  decide

/- The spans of a row stand between separators. -/
theorem row_eq
    (separator : Span)
    (content : ArrayCell → Span)
    (cells : List ArrayCell) :
    row
        (fun first cell =>
          (if first then [] else [separator]) ++ [content cell])
        cells =
      (cells.map content).intersperse separator := by
  cases cells with
  | nil => rfl
  | cons cell rest =>
      induction rest generalizing cell with
      | nil => rfl
      | cons next rest ih =>
          rw [List.map_cons, List.map_cons,
            List.intersperse_cons_cons, ← List.map_cons, ← ih]
          rfl

theorem row_cellSpans (cells : List ArrayCell) :
    row cellSpans cells =
      (cells.map cellSpan).intersperse bar :=
  row_eq bar cellSpan cells

theorem row_labelSpans (cells : List ArrayCell) :
    row labelSpans cells =
      (cells.map labelSpan).intersperse gap :=
  row_eq gap labelSpan cells

theorem length_cellSpan (cell : ArrayCell) :
    cell.cellSpan.text.length = cell.width + 2 := by
  have hFits : cell.text.length ≤ cell.width :=
    Nat.le_max_left _ _
  rw [cellSpan, length_spaced, length_padAround hFits]

theorem length_labelSpan (cell : ArrayCell) :
    cell.labelSpan.text.length = cell.width + 2 := by
  have hFits : cell.label.length ≤ cell.width :=
    Nat.le_max_right _ _
  rw [labelSpan, length_spaced, length_padAround hFits]

/- The spans of the two rows have the same widths. -/
theorem map_width_rows (cells : List ArrayCell) :
    (row cellSpans cells).map (fun span => span.text.length) =
      (row labelSpans cells).map
        fun span => span.text.length := by
  rw [row_cellSpans, row_labelSpans]
  cases cells with
  | nil => rfl
  | cons cell rest =>
      induction rest generalizing cell with
      | nil => simp [length_cellSpan, length_labelSpan]
      | cons next rest ih =>
          have hRest := ih next
          simp only [List.map_cons] at hRest ⊢
          rw [List.intersperse_cons_cons,
            List.intersperse_cons_cons]
          simp only [List.map_cons, length_cellSpan,
            length_labelSpan, length_separators, hRest]

end ArrayCell

/- The cells and the labels of an array start alike. -/
theorem columnOf_cellLine
    (cells : List ArrayCell)
    {index : Nat}
    (hIndex : index ≤ (labelLine cells).spans.length) :
    (cellLine cells).columnOf index =
      (labelLine cells).columnOf index := by
  have hStart : "  [".length = "   ".length := by decide
  have hWidths :
      (cellLine cells).spans.map (fun span => span.text.length) =
        (labelLine cells).spans.map
            (fun span => span.text.length) ++ ["]".length] := by
    simp only [cellLine, labelLine, Line.ofSpans, List.map_append,
      List.map_cons, List.cons_append, List.map_nil,
      ArrayCell.map_width_rows, hStart]
  simp only [Line.columnOf, List.length_flatMap,
    String.length_toList, List.map_take]
  rw [hWidths,
    List.take_append_of_le_length (by simpa using hIndex)]

/- The cells are every other span, between two brackets. -/
theorem cellLine_getElem?
    (cells : List ArrayCell)
    {n : Nat}
    {cell : ArrayCell}
    (hCell : cells[n]? = some cell) :
    (cellLine cells).spans[2 * n + 1]? = some cell.cellSpan := by
  have hSpan :
      ((cells.map ArrayCell.cellSpan).intersperse
          ArrayCell.bar)[2 * n]? =
        some cell.cellSpan := by
    rw [List.getElem?_intersperse_two_mul, List.getElem?_map,
      hCell]
    rfl
  have hLess := (List.getElem?_eq_some_iff.mp hSpan).1
  rw [cellLine, Line.ofSpans, ArrayCell.row_cellSpans,
    List.cons_append, List.getElem?_cons_succ,
    List.getElem?_append_left hLess, hSpan]

theorem labelLine_getElem?
    (cells : List ArrayCell)
    {n : Nat}
    {cell : ArrayCell}
    (hCell : cells[n]? = some cell) :
    (labelLine cells).spans[2 * n + 1]? = some cell.labelSpan := by
  rw [labelLine, Line.ofSpans, ArrayCell.row_labelSpans,
    List.getElem?_cons_succ, List.getElem?_intersperse_two_mul,
    List.getElem?_map, hCell]
  rfl

theorem cellStyle_eq_iff (isNew : Bool) :
    cellStyle isNew = cellStyle true ↔ isNew = true := by
  cases isNew <;> decide

/- Only new cells are drawn like new ones. -/
theorem new_span_iff
    (cells : List ArrayCell)
    {index : Nat}
    {span : Span}
    (hSpan : (cellLine cells).spans[index]? = some span) :
    span.style = cellStyle true ↔
      ∃ n cell,
        cells[n]? = some cell ∧ cell.isNew = true ∧
          index = 2 * n + 1 := by
  have hMuted : muted ≠ cellStyle true := by decide
  have hCells :
      (cellLine cells).spans =
        ⟨"  [", muted⟩ ::
          ((cells.map ArrayCell.cellSpan).intersperse
            ArrayCell.bar ++ [⟨"]", muted⟩]) := by
    rw [cellLine, Line.ofSpans, ArrayCell.row_cellSpans,
      List.cons_append]
  constructor
  · intro hNew
    rw [hCells] at hSpan
    rcases index with _ | index
    case zero =>
      cases hSpan
      exact absurd hNew hMuted
    case succ =>
      rw [List.getElem?_cons_succ, List.getElem?_append] at hSpan
      split at hSpan
      case isTrue hLess =>
        rw [List.length_intersperse, List.length_map] at hLess
        have hHalf : ∃ n, index = 2 * n ∨ index = 2 * n + 1 :=
          ⟨index / 2, by omega⟩
        rcases hHalf with ⟨n, rfl | rfl⟩
        · rw [List.getElem?_intersperse_two_mul,
            List.getElem?_map] at hSpan
          rcases Option.map_eq_some_iff.mp hSpan with
            ⟨cell, hCell, rfl⟩
          exact
            ⟨n, cell, hCell, (cellStyle_eq_iff _).mp hNew, rfl⟩
        · rw [List.getElem?_intersperse_two_mul_add_one
            (by rw [List.length_map]; omega)] at hSpan
          cases hSpan
          exact absurd hNew hMuted
      case isFalse =>
        rcases List.mem_singleton.mp (List.mem_of_getElem? hSpan)
          with rfl
        exact absurd hNew hMuted
  · rintro ⟨n, cell, hCell, hNew, rfl⟩
    rw [cellLine_getElem? cells hCell] at hSpan
    cases hSpan
    exact (cellStyle_eq_iff _).mpr hNew

------------------------------------------------------------
-- Labels
------------------------------------------------------------

namespace SequenceEntry

/- The labels of the pointers to an index, joined by commas. -/
def labelText
    (entry : SequenceEntry)
    (index : Nat) : String :=
  ", ".intercalate
    ((entry.pointers.filter fun pointer =>
      pointer.index.toNat = index).map PointerLabel.label)

theorem getD_labelsAt?
    (entry : SequenceEntry)
    (index : Nat) :
    (entry.labelsAt? index).getD "" = entry.labelText index := by
  change _ = ", ".intercalate (entry.labelsOf index)
  rw [labelsAt?]
  cases entry.labelsOf index <;> rfl

end SequenceEntry

/- A cell has the value and the labels of its index. -/
theorem arrayCells_getElem?
    (entry : SequenceEntry)
    (n : Nat) :
    (arrayCells entry)[n]? =
      entry.values[n]?.map fun value =>
        { text := (scalarText value).toList
          label := (entry.labelText n).toList
          isNew := entry.newIndex = some n } := by
  rw [arrayCells, List.getElem?_map, List.getElem?_zipIdx]
  cases entry.values[n]? with
  | none => rfl
  | some value =>
      simp only [Option.map_some, Nat.zero_add,
        SequenceEntry.getD_labelsAt?]

theorem ArrayCell.paddable_iff (cell : ArrayCell) :
    cell.paddable = true ↔
      max cell.text.length cell.label.length ≤ widthLimit :=
  decide_eq_true_iff

/- An array is drawn if no cell or label is too wide. -/
theorem drawable_iff (entry : SequenceEntry) :
    entry.drawable = true ↔
      ∀ n value,
        entry.values[n]? = some value →
          max (scalarText value).length
              (entry.labelText n).length ≤
            widthLimit := by
  rw [SequenceEntry.drawable, List.all_eq_true]
  constructor
  · intro hAll n value hValue
    have hCell := arrayCells_getElem? entry n
    rw [hValue, Option.map_some] at hCell
    have hFits := hAll _ (List.mem_of_getElem? hCell)
    rwa [ArrayCell.paddable_iff, String.length_toList,
      String.length_toList] at hFits
  · intro hAll cell hMem
    rcases List.getElem?_of_mem hMem with ⟨n, hCell⟩
    rw [arrayCells_getElem?] at hCell
    rcases Option.map_eq_some_iff.mp hCell with
      ⟨value, hValue, rfl⟩
    rw [ArrayCell.paddable_iff, String.length_toList,
      String.length_toList]
    exact hAll n value hValue

/- A line of labels is drawn if there is one to show. -/
theorem any_label_iff (entry : SequenceEntry) :
    ((arrayCells entry).any fun cell =>
        !cell.label.isEmpty) = true ↔
      ∃ n < entry.values.length, entry.labelText n ≠ "" := by
  rw [List.any_eq_true]
  constructor
  · rintro ⟨cell, hMem, hLabel⟩
    rcases List.getElem?_of_mem hMem with ⟨n, hCell⟩
    rw [arrayCells_getElem?] at hCell
    rcases Option.map_eq_some_iff.mp hCell with
      ⟨value, hValue, rfl⟩
    have hLess := (List.getElem?_eq_some_iff.mp hValue).1
    exact ⟨n, hLess, by simpa using hLabel⟩
  · rintro ⟨n, hLess, hLabel⟩
    have hCell := arrayCells_getElem? entry n
    rw [List.getElem?_eq_getElem hLess, Option.map_some] at hCell
    exact ⟨_, List.mem_of_getElem? hCell, by simpa using hLabel⟩

------------------------------------------------------------
-- Arrays
------------------------------------------------------------

theorem arrayLines_of_values
    {entry : SequenceEntry}
    (hValues : entry.values ≠ []) :
    arrayLines entry =
      caption "Array" entry.name ::
        cellLine (arrayCells entry) ::
          if (arrayCells entry).any fun cell =>
              !cell.label.isEmpty then
            [labelLine (arrayCells entry)]
          else
            [] := by
  have hFull : entry.values.isEmpty = false := by
    simpa using hValues
  rw [arrayLines, hFull]
  rfl

/- The n-th value and its labels stand in shared columns. -/
theorem cell_over_label
    (entry : SequenceEntry)
    {n : Nat}
    {value : Json}
    (hValue : entry.values[n]? = some value) :
    ∃ cell label : Span,
      (cellLine (arrayCells entry)).spans[2 * n + 1]? =
          some cell ∧
        (labelLine (arrayCells entry)).spans[2 * n + 1]? =
          some label ∧
        (cellLine (arrayCells entry)).columnOf (2 * n + 1) =
          (labelLine (arrayCells entry)).columnOf (2 * n + 1) ∧
        cell.text.length =
          max (scalarText value).length
              (entry.labelText n).length + 2 ∧
        label.text.length = cell.text.length ∧
        Centred (scalarText value) cell.text ∧
        Centred (entry.labelText n) label.text := by
  have hCell := arrayCells_getElem? entry n
  rw [hValue, Option.map_some] at hCell
  have hLabelSpan := labelLine_getElem? _ hCell
  have hLess := (List.getElem?_eq_some_iff.mp hLabelSpan).1
  refine ⟨_, _, cellLine_getElem? _ hCell, hLabelSpan,
    columnOf_cellLine _ (Nat.le_of_lt hLess), ?_, ?_,
    centred_spaced _ _, centred_spaced _ _⟩
  · rw [ArrayCell.length_cellSpan, ArrayCell.width,
      String.length_toList, String.length_toList]
  · rw [ArrayCell.length_cellSpan, ArrayCell.length_labelSpan]

/- The cell drawn like a new one is that at the new index. -/
theorem new_cell_iff
    (entry : SequenceEntry)
    {index : Nat}
    {span : Span}
    (hSpan :
      (cellLine (arrayCells entry)).spans[index]? = some span) :
    span.style = cellStyle true ↔
      ∃ n,
        entry.newIndex = some n ∧
          n < entry.values.length ∧ index = 2 * n + 1 := by
  rw [new_span_iff _ hSpan]
  constructor
  · rintro ⟨n, cell, hCell, hNew, hIndex⟩
    rw [arrayCells_getElem?] at hCell
    rcases Option.map_eq_some_iff.mp hCell with
      ⟨value, hValue, rfl⟩
    exact
      ⟨n, of_decide_eq_true hNew,
        (List.getElem?_eq_some_iff.mp hValue).1, hIndex⟩
  · rintro ⟨n, hNew, hLess, hIndex⟩
    have hCell := arrayCells_getElem? entry n
    rw [List.getElem?_eq_getElem hLess, Option.map_some] at hCell
    exact ⟨n, _, hCell, decide_eq_true hNew, hIndex⟩

/-
  An array with values is drawn exactly if each value and the
  labels of each index have at most 65535 characters. Then the
  line of labels is there if a label of an index is not empty.
  The n-th cell and the n-th label start in the same column;
  each shows its text in the middle of the width that the
  wider one needs. The labels of an index are those of the
  pointers to it in their order. Only the cell at the new
  index is drawn like a new one.
-/
theorem cells_over_labels
    (entry : SequenceEntry)
    (hValues : entry.values ≠ []) :
    ((arrayLines? entry).isSome = true ↔
      ∀ n value,
        entry.values[n]? = some value →
          max (scalarText value).length
              (entry.labelText n).length ≤
            65535) ∧
    ∀ lines,
      arrayLines? entry = some lines →
        ∃ cells labels : Line,
          (lines = [caption "Array" entry.name, cells, labels] ∧
              (∃ n < entry.values.length,
                entry.labelText n ≠ "") ∨
            lines = [caption "Array" entry.name, cells] ∧
              ∀ n < entry.values.length,
                entry.labelText n = "") ∧
          (∀ n value,
            entry.values[n]? = some value →
              ∃ cell label : Span,
                cells.spans[2 * n + 1]? = some cell ∧
                  labels.spans[2 * n + 1]? = some label ∧
                  cells.columnOf (2 * n + 1) =
                    labels.columnOf (2 * n + 1) ∧
                  cell.text.length =
                    max (scalarText value).length
                        (entry.labelText n).length + 2 ∧
                  label.text.length = cell.text.length ∧
                  Centred (scalarText value) cell.text ∧
                  Centred (entry.labelText n) label.text) ∧
          ∀ index span,
            cells.spans[index]? = some span →
              (span.style = cellStyle true ↔
                ∃ n,
                  entry.newIndex = some n ∧
                    n < entry.values.length ∧
                    index = 2 * n + 1) := by
  have hDrawn :
      (arrayLines? entry).isSome = true ↔
        entry.drawable = true := by
    rw [arrayLines?]
    split <;> simp_all
  refine ⟨hDrawn.trans (drawable_iff entry),
    fun lines hLines => ?_⟩
  have hSame : arrayLines entry = lines := by
    rw [arrayLines?] at hLines
    split at hLines
    · exact Option.some.inj hLines
    · cases hLines
  refine ⟨cellLine (arrayCells entry),
    labelLine (arrayCells entry), ?_,
    fun n value hValue => cell_over_label entry hValue,
    fun index span hSpan => new_cell_iff entry hSpan⟩
  rw [← hSame, arrayLines_of_values hValues]
  have hLabels := any_label_iff entry
  split
  case isTrue hAny => exact .inl ⟨rfl, hLabels.mp hAny⟩
  case isFalse hNone =>
    refine .inr ⟨rfl, fun n hLess => ?_⟩
    by_contra hLabel
    exact hNone (hLabels.mpr ⟨n, hLess, hLabel⟩)

/- Two labels under one cell of two, and one out of range. -/
theorem cells_over_two_labels :
    let entry : SequenceEntry :=
      { name := "a"
        values := [.string "xyz", .null]
        newIndex := some 1
        pointers := [⟨"i", 0⟩, ⟨"key", 0⟩, ⟨"j", 7⟩] }
    entry.values ≠ [] ∧
      entry.labelText 0 = "i, key" ∧
      ∃ (cells labels : Line) (cell : Span),
        arrayLines? entry =
            some [caption "Array" "a", cells, labels] ∧
          cells.columnOf 3 = labels.columnOf 3 ∧
          cells.spans[3]? = some cell ∧
          cell.style = cellStyle true := by
  intro entry
  have hValues : entry.values ≠ [] := List.cons_ne_nil _ _
  have hDrawn : (arrayLines? entry).isSome = true := by decide
  have hLabel : entry.labelText 0 = "i, key" := by decide
  rcases Option.isSome_iff_exists.mp hDrawn with
    ⟨lines, hLines⟩
  rcases (cells_over_labels entry hValues).2 lines hLines with
    ⟨cells, labels, hShown, hColumns, hNew⟩
  rcases hShown with ⟨rfl, _⟩ | ⟨_, hNone⟩
  case inl =>
    rcases hColumns 1 .null rfl with
      ⟨cell, label, hCell, _, hColumn, _⟩
    exact
      ⟨hValues, hLabel, cells, labels, cell, hLines, hColumn,
        hCell,
        (hNew 3 cell hCell).mpr ⟨1, rfl, by decide, rfl⟩⟩
  case inr =>
    rw [hNone 0 (by decide)] at hLabel
    exact absurd hLabel (by decide)

/- One value that is too wide keeps an array undrawn. -/
theorem arrayLines?_eq_none_of_wide
    {entry : SequenceEntry}
    {n : Nat}
    {value : Json}
    (hValue : entry.values[n]? = some value)
    (hWide : widthLimit < (scalarText value).length) :
    arrayLines? entry = none := by
  rw [arrayLines?, if_neg]
  rw [drawable_iff]
  intro hAll
  have hFits :=
    Nat.le_trans (Nat.le_max_left _ _) (hAll n value hValue)
  omega

/- A value of one character too many is not drawn. -/
theorem wide_cell_not_drawn :
    let text := String.ofList (List.replicate 65536 'x')
    let entry : SequenceEntry :=
      { name := "a"
        values := [.string text]
        newIndex := none
        pointers := [] }
    entry.values ≠ [] ∧ arrayLines? entry = none := by
  intro text entry
  have hLength : text.length = 65536 := by
    rw [String.length_ofList, List.length_replicate]
  have hWide : widthLimit < text.length := by
    rw [hLength]
    decide
  exact
    ⟨List.cons_ne_nil _ _,
      arrayLines?_eq_none_of_wide List.getElem?_cons_zero hWide⟩

end TracePlayer
