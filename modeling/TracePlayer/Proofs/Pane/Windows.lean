import TracePlayer.Pane.Structures

/-
  This file proves what the scrolled panes show: consecutive
  lines, as many as there is room for, and in the source the
  line in focus among them, whatever the scroll state was.

  Main declarations:
    * `difference?`, `lastOffset?`
    * `IsWindow`, `isWindow_of_le`
    * `SourceScroll.follow?`, `SourcePane.settle?`
    * `SourceScroll.focus_in_rows`, `SourceScroll.follow_follow`
    * `SourcePane.numbered`, `SourcePane.KeepsInSight`
    * `StructuresPane.settle?`, `StructuresPane.ShowsPage`
    * `windows_in_place`
-/

namespace TracePlayer

------------------------------------------------------------
-- Differences
------------------------------------------------------------

/- A difference that is only there if it is not negative. -/
def difference? (a b : Nat) : Option Nat :=
  if b ≤ a then some (a - b) else none

theorem difference?_of_le
    {a b : Nat}
    (hLe : b ≤ a) : difference? a b = some (a - b) :=
  if_pos hLe

/-
  The most lines that can be above a window, with the one
  difference in it checked.
-/
def lastOffset? (rows total : Nat) : Option Nat :=
  if rows < total then difference? total rows else some 0

theorem lastOffset?_eq (rows total : Nat) :
    lastOffset? rows total = some (total - rows) := by
  unfold lastOffset?
  split
  case isTrue hMore => exact difference?_of_le (Nat.le_of_lt hMore)
  case isFalse hFits =>
      rw [Nat.sub_eq_zero_of_le (Nat.not_lt.mp hFits)]

------------------------------------------------------------
-- Windows
------------------------------------------------------------

section

variable {α : Type}

/-
  What a window of some rows shows of a list below an offset:
  consecutive items, as many as the rows and the list allow.
-/
structure IsWindow
    (all : List α)
    (rows offset : Nat)
    (shown : List α) : Prop where
  length_eq : shown.length = min rows all.length
  item_eq :
    ∀ k < shown.length, shown[k]? = all[offset + k]?

/- A window above the last page is full. -/
theorem isWindow_of_le
    {all : List α}
    {rows offset : Nat}
    (hOffset : offset ≤ all.length - rows) :
    IsWindow all rows offset ((all.drop offset).take rows) := by
  constructor
  case length_eq =>
      rw [List.length_take, List.length_drop]
      omega
  case item_eq =>
      intro k hLess
      have hRow : k < rows :=
        Nat.lt_of_lt_of_le hLess (List.length_take_le _ _)
      rw [List.getElem?_take_of_lt hRow, List.getElem?_drop]

/- What is between the ends of a window is shown. -/
theorem IsWindow.getElem?_sub
    {all shown : List α}
    {rows offset n : Nat}
    (hWindow : IsWindow all rows offset shown)
    (hAbove : offset ≤ n)
    (hBelow : n < offset + rows)
    (hItem : n < all.length) :
    shown[n - offset]? = all[n]? := by
  have hRow : n - offset < shown.length := by
    rw [hWindow.length_eq]
    omega
  rw [hWindow.item_eq _ hRow, Nat.add_sub_cancel' hAbove]

end

------------------------------------------------------------
-- Following the Line in Focus
------------------------------------------------------------

/- There is always a row for a line. -/
theorem visibleRows_pos (height : Nat) :
    0 < visibleRows height :=
  Nat.lt_of_lt_of_le Nat.one_pos (Nat.le_max_right _ _)

namespace SourceScroll

variable {rows total line : Nat}

/-
  Following a line with every difference checked that does not
  stop at zero of its own.
-/
def follow?
    (scroll : SourceScroll)
    (rows total : Nat)
    (focus : Option Nat) : Option SourceScroll := do
  let row := scroll.targetRow rows
  match focus.filter fun line => 0 < line && line ≤ total with
  | some line =>
      let above ← difference? line 1
      let last ← lastOffset? rows total
      some ⟨min (above - row) last, some row⟩
  | none => some ⟨scroll.offset, some row⟩

/- No difference is negative, whatever line is in focus. -/
theorem follow?_eq
    (scroll : SourceScroll)
    (rows total : Nat)
    (focus : Option Nat) :
    scroll.follow? rows total focus =
      some (scroll.follow rows total focus) := by
  cases hFocus :
      focus.filter fun line => 0 < line && line ≤ total with
  | none => simp only [follow?, follow, hFocus]
  | some line =>
      have hInText := (Option.filter_eq_some_iff.mp hFocus).2
      simp only [Bool.and_eq_true, decide_eq_true_eq] at hInText
      have hFirst := difference?_of_le hInText.1
      simp only [follow?, follow, hFocus, hFirst,
        lastOffset?_eq, Option.bind_eq_bind, Option.bind_some]

/- The row for the line in focus is one of the rows. -/
theorem targetRow_lt
    (scroll : SourceScroll)
    (hRows : 0 < rows) : scroll.targetRow rows < rows := by
  unfold targetRow
  omega

/- The offset after following a line of the text. -/
theorem follow_of_line
    (scroll : SourceScroll)
    (rows : Nat)
    (hFirst : 1 ≤ line)
    (hLast : line ≤ total) :
    scroll.follow rows total (some line) =
      ⟨min (line - 1 - scroll.targetRow rows) (total - rows),
        some (scroll.targetRow rows)⟩ := by
  have hInText :
      (some line).filter
          (fun line => 0 < line && line ≤ total) =
        some line := by
    simp [Nat.lt_of_lt_of_le Nat.one_pos hFirst, hLast]
  simp only [follow, hInText]

/-
  A line of the text that is in focus is in the window. If the
  window was moved up to the last page, it ends with the text;
  else the line stands in its row, or above it at the start.
-/
theorem focus_in_rows
    (scroll : SourceScroll)
    (hRows : 0 < rows)
    (hFirst : 1 ≤ line)
    (hLast : line ≤ total) :
    let settled := scroll.follow rows total (some line)
    settled.offset < line ∧ line ≤ settled.offset + rows := by
  intro settled
  have hSettled : settled.offset = _ :=
    congrArg offset (scroll.follow_of_line rows hFirst hLast)
  have hRow := scroll.targetRow_lt hRows
  rw [hSettled]
  dsimp only
  omega

/- The window ends with the text at the latest. -/
theorem offset_follow_le
    (scroll : SourceScroll)
    (rows : Nat)
    (hFirst : 1 ≤ line)
    (hLast : line ≤ total) :
    (scroll.follow rows total (some line)).offset ≤
      total - rows := by
  rw [scroll.follow_of_line rows hFirst hLast]
  exact Nat.min_le_right _ _

/- The row that is stored is the one that is used again. -/
theorem targetRow_follow
    (scroll : SourceScroll)
    (rows total : Nat)
    (focus : Option Nat) :
    (scroll.follow rows total focus).targetRow rows =
      scroll.targetRow rows := by
  have hRow : (scroll.follow rows total focus).row =
      some (scroll.targetRow rows) :=
    rfl
  rw [targetRow, hRow, Option.getD_some]
  exact Nat.min_eq_left (Nat.min_le_right _ _)

/- Following the same line again moves nothing. -/
theorem follow_follow
    (scroll : SourceScroll)
    (rows total : Nat)
    (focus : Option Nat) :
    (scroll.follow rows total focus).follow rows total focus =
      scroll.follow rows total focus := by
  have hRow := scroll.targetRow_follow rows total focus
  rw [follow, hRow]
  unfold follow
  split <;> rfl

end SourceScroll

------------------------------------------------------------
-- The Source
------------------------------------------------------------

namespace SourcePane

/- All lines of the program after their numbers. -/
def numbered (pane : SourcePane) : List Line :=
  (textLines pane.source).mapIdx fun k text =>
    pane.line (k + 1) text

/- Settling with every difference checked. -/
def settle?
    (pane : SourcePane)
    (height : Nat)
    (scroll : SourceScroll) : Option SourceScroll :=
  scroll.follow? (visibleRows height)
    (textLines pane.source).length pane.focus?

theorem length_numbered (pane : SourcePane) :
    pane.numbered.length = (textLines pane.source).length :=
  List.length_mapIdx

/- The pane draws a part of the numbered lines. -/
theorem lines_eq
    (pane : SourcePane)
    (offset rows : Nat) :
    pane.lines offset rows =
      (pane.numbered.drop offset).take rows := by
  have hNumbered :
      pane.numbered =
        ((textLines pane.source).zipIdx 1).map
          fun numbered => pane.line numbered.2 numbered.1 := by
    apply List.ext_getElem?
    intro k
    simp only [numbered, List.getElem?_mapIdx, List.getElem?_map,
      List.getElem?_zipIdx, Option.map_map, Function.comp_def,
      Nat.add_comm 1]
  rw [hNumbered, ← List.map_drop, ← List.map_take]
  rfl

/- A line of the text is drawn after its number. -/
theorem numbered_getElem?
    (pane : SourcePane)
    (k : Nat) :
    pane.numbered[k]? =
      (textLines pane.source)[k]?.map (pane.line (k + 1)) :=
  List.getElem?_mapIdx

/-
  What drawing the pane does to its scroll state when a line
  is in focus: no difference is negative, the line is in the
  window, its row is one of the rows, and once more the state
  stays as it is. The window shows consecutive lines, as many
  as there is room for, and the line in focus among them.
-/
structure KeepsInSight
    (pane : SourcePane)
    (height line : Nat)
    (scroll settled : SourceScroll) : Prop where
  checked : pane.settle? height scroll = some settled
  in_window :
    settled.offset < line ∧
      line ≤ settled.offset + max (height - 2) 1
  row_lt :
    ∃ row, settled.row = some row ∧ row < max (height - 2) 1
  settled_again : pane.settle height settled = settled
  drawn :
    ∃ shown text,
      (∀ canvas area,
        area.height = height →
          pane.draw canvas area settled =
            canvas.drawPane area Style.plain " Source Code "
              (Theme.border pane.focused) shown) ∧
      IsWindow pane.numbered (max (height - 2) 1)
        settled.offset shown ∧
      (textLines pane.source)[line - 1]? = some text ∧
      shown[line - 1 - settled.offset]? =
        some (pane.line line text)

/- A line of the text in focus is kept in sight. -/
theorem keepsInSight_of_focus
    {pane : SourcePane}
    {line : Nat}
    (hFocus : pane.focus? = some line)
    (hFirst : 1 ≤ line)
    (hLast : line ≤ (textLines pane.source).length)
    (height : Nat)
    (scroll : SourceScroll) :
    pane.KeepsInSight height line scroll
      (pane.settle height scroll) := by
  let rows := visibleRows height
  let settled := pane.settle height scroll
  have hSettled :
      settled =
        scroll.follow rows (textLines pane.source).length
          (some line) :=
    congrArg (scroll.follow _ _) hFocus
  have hRows : 0 < rows := visibleRows_pos height
  have hIn :
      settled.offset < line ∧ line ≤ settled.offset + rows := by
    rw [hSettled]
    exact scroll.focus_in_rows hRows hFirst hLast
  have hFits :
      settled.offset ≤ pane.numbered.length - rows := by
    rw [hSettled, pane.length_numbered]
    exact scroll.offset_follow_le rows hFirst hLast
  have hWindow := isWindow_of_le hFits
  constructor
  case checked => exact scroll.follow?_eq _ _ _
  case in_window => exact hIn
  case row_lt => exact ⟨_, rfl, scroll.targetRow_lt hRows⟩
  case settled_again => exact scroll.follow_follow _ _ _
  case drawn =>
      have hInText :
          line - 1 < (textLines pane.source).length := by
        omega
      refine
        ⟨_, (textLines pane.source)[line - 1], ?_, hWindow,
          List.getElem?_eq_getElem hInText, ?_⟩
      · rintro canvas area rfl
        rw [draw, lines_eq]
      · rw [hWindow.getElem?_sub (by omega) (by omega)
            (pane.length_numbered ▸ hInText),
          pane.numbered_getElem?, Nat.sub_add_cancel hFirst,
          List.getElem?_eq_getElem hInText, Option.map_some]

end SourcePane

------------------------------------------------------------
-- The Structures
------------------------------------------------------------

namespace StructuresPane

/- Settling with every difference checked. -/
def settle?
    (pane : StructuresPane)
    (height above : Nat) : Option Nat :=
  let total := pane.lines.length
  if total = 0 then some above
  else (lastOffset? (visibleRows height) total).map (min above)

theorem settle?_eq
    (pane : StructuresPane)
    (height above : Nat) :
    pane.settle? height above =
      some (pane.settle height above) := by
  unfold settle? settle
  dsimp only
  split
  case isTrue => rfl
  case isFalse =>
      rw [lastOffset?_eq]
      rfl

/- The window ends with the lines at the latest. -/
theorem settle_le
    {pane : StructuresPane}
    (hLines : pane.lines ≠ [])
    (height above : Nat) :
    pane.settle height above ≤
      pane.lines.length - visibleRows height := by
  have hTotal : pane.lines.length ≠ 0 :=
    mt List.length_eq_zero_iff.mp hLines
  unfold settle
  dsimp only
  rw [if_neg hTotal]
  exact Nat.min_le_right _ _

/-
  What drawing the pane does to the number of lines above its
  window: no difference is negative, and the window shows
  consecutive lines, as many as there is room for. Only a view
  that can be drawn is.
-/
structure ShowsPage
    (pane : StructuresPane)
    (height above settled : Nat) : Prop where
  checked : pane.settle? height above = some settled
  drawn :
    ∃ shown,
      (∀ canvas area,
        area.height = height →
          pane.draw? canvas area settled =
            if pane.drawable then
              some
                (canvas.drawPane area Style.plain pane.title
                  (Theme.border pane.focused) shown)
            else
              none) ∧
      IsWindow pane.lines (max (height - 2) 1) settled shown

/- A pane with lines shows a page of them. -/
theorem showsPage_of_lines
    {pane : StructuresPane}
    (hLines : pane.lines ≠ [])
    (height above : Nat) :
    pane.ShowsPage height above (pane.settle height above) := by
  have hFits := settle_le hLines height above
  refine ⟨pane.settle?_eq height above, _, ?_,
    isWindow_of_le hFits⟩
  rintro canvas area rfl
  have hSome : pane.lines.isEmpty = false :=
    List.isEmpty_eq_false_iff.mpr hLines
  simp only [draw?, draw, hSome]
  rfl

end StructuresPane

------------------------------------------------------------
-- Both Panes
------------------------------------------------------------

/-
  Whatever the height and the scroll states were, a line of
  the text in focus is in sight in its pane, and the pane of
  the structures shows a full page if it has so many lines.
-/
theorem windows_in_place (height : Nat) :
    (∀ (pane : SourcePane) (scroll : SourceScroll) (line : Nat),
      pane.focus? = some line →
      1 ≤ line →
      line ≤ (textLines pane.source).length →
        pane.KeepsInSight height line scroll
          (pane.settle height scroll)) ∧
    ∀ (pane : StructuresPane) (above : Nat),
      pane.lines ≠ [] →
        pane.ShowsPage height above
          (pane.settle height above) := by
  constructor
  · intro pane scroll line hFocus hFirst hLast
    exact SourcePane.keepsInSight_of_focus hFocus hFirst hLast
      height scroll
  · intro pane above hLines
    exact StructuresPane.showsPage_of_lines hLines height above

/-
  An error in the last line of six, in three rows: the window
  ends with the text, so the line is below its row. Three lines
  of structures in three rows are not scrolled at all.
-/
theorem windows_in_place_at_end :
    let source : SourcePane :=
      { source := "a\nb\nc\nd\ne\nf"
        currentLine := some 2
        errorLine := some 6
        focused := true }
    let structures : StructuresPane :=
      { view :=
          some
            { View.empty with
              scalars := Named.ofList [("x", .null)] }
        placeholder := ""
        focused := false }
    source.focus? = some 6 ∧
      6 ≤ (textLines source.source).length ∧
      source.settle 5 SourceScroll.start = ⟨3, some 1⟩ ∧
      source.settle? 5 SourceScroll.start = some ⟨3, some 1⟩ ∧
      (∃ shown,
        IsWindow source.numbered 3 3 shown ∧
          shown[2]? = some (source.line 6 ['f'])) ∧
      structures.lines ≠ [] ∧
      structures.settle 5 9 = 0 ∧
      ∃ shown, IsWindow structures.lines 3 0 shown := by
  intro source structures
  have hLast : 6 ≤ (textLines source.source).length := by decide
  have hSettled :
      source.settle 5 SourceScroll.start = ⟨3, some 1⟩ := by
    decide
  have hLetter :
      (textLines source.source)[6 - 1]? = some ['f'] := by
    decide
  have hLines : structures.lines ≠ [] := List.cons_ne_nil _ _
  have hScroll : structures.settle 5 9 = 0 := by decide
  rcases windows_in_place 5 with ⟨hSource, hStructures⟩
  have hSight :=
    hSource source SourceScroll.start 6 rfl (by decide) hLast
  have hPage := hStructures structures 9 hLines
  rw [hSettled] at hSight
  rw [hScroll] at hPage
  rcases hSight.drawn with
    ⟨shown, text, _, hWindow, hText, hShown⟩
  rcases hPage.drawn with ⟨others, _, hOthers⟩
  rw [hLetter] at hText
  cases hText
  exact
    ⟨rfl, hLast, hSettled, hSight.checked,
      ⟨shown, hWindow, hShown⟩,
      hLines, hScroll, others, hOthers⟩

end TracePlayer
