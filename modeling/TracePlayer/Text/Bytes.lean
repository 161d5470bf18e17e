/-
  This file cuts text at byte offsets. A character takes from
  one to four bytes, and an offset inside one cuts nothing.

  Key definitions include:
    * `byteLength`
    * `cutAt?`, `slice?`
    * `offsetsFrom`
-/

namespace TracePlayer

/- The bytes that a text takes. -/
def byteLength : List Char → Nat
| [] => 0
| c :: rest => c.utf8Size + byteLength rest

/-
  The parts of a text before and after a byte offset, unless
  it is inside a character or behind the end.
-/
def cutAt? : List Char → Nat → Option (List Char × List Char)
| text, 0 => some ([], text)
| [], _ + 1 => none
| c :: rest, offset + 1 =>
    if c.utf8Size ≤ offset + 1 then
      (cutAt? rest (offset + 1 - c.utf8Size)).map
        fun (before, after) => (c :: before, after)
    else
      none

/- The text from one byte offset to another that follows it. -/
def slice?
    (text : List Char)
    (start stop : Nat) : Option (List Char) :=
  if start ≤ stop then do
    let (_, after) ← cutAt? text start
    let (between, _) ← cutAt? after (stop - start)
    some between
  else
    none

/-
  The characters of a text with the byte offsets at which they
  begin, given that of the first.
-/
def offsetsFrom (offset : Nat) : List Char → List (Nat × Char)
| [] => []
| c :: rest => (offset, c) :: offsetsFrom (offset + c.utf8Size) rest

------------------------------------------------------------
-- Cuts between Characters
------------------------------------------------------------

theorem byteLength_append (before after : List Char) :
    byteLength (before ++ after) =
      byteLength before + byteLength after := by
  induction before with
  | nil => simp [byteLength]
  | cons c rest ih =>
      simp only [List.cons_append, byteLength, ih]
      omega

/- A text is cut where one of its parts ends. -/
theorem cutAt?_append (before after : List Char) :
    cutAt? (before ++ after) (byteLength before) =
      some (before, after) := by
  induction before with
  | nil => cases after <;> rfl
  | cons c rest ih =>
      have hSize := c.utf8Size_pos
      have hCut :
          byteLength (c :: rest) =
            (c.utf8Size + byteLength rest - 1) + 1 := by
        simp only [byteLength]
        omega
      have hRest :
          c.utf8Size + byteLength rest - 1 + 1 - c.utf8Size =
            byteLength rest := by
        omega
      rw [hCut, List.cons_append, cutAt?, if_pos (by omega),
        hRest, ih]
      rfl

/- The middle of a text is what stands between its offsets. -/
theorem slice?_middle (before between after : List Char) :
    slice? (before ++ between ++ after) (byteLength before)
        (byteLength (before ++ between)) =
      some between := by
  have hLength := byteLength_append before between
  have hStart :
      byteLength before ≤ byteLength (before ++ between) := by
    omega
  have hBetween :
      byteLength (before ++ between) - byteLength before =
        byteLength between := by
    omega
  rw [slice?, if_pos hStart, hBetween, List.append_assoc,
    cutAt?_append]
  simp [cutAt?_append]

end TracePlayer
