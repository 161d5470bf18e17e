import TracePlayer.Json.Text
import TracePlayer.Proofs.Number.Characters
import TracePlayer.Text.Lines

/-
  This file proves that the compact text of a JSON value is
  one line: it has no character below the space, whatever
  the strings in it. So texts with a line feed after each
  are the lines that are read back.

  Main declarations:
    * `Printable`
    * `Json.write_printable`
    * `textLinesFrom_join`
-/

namespace TracePlayer

------------------------------------------------------------
-- Printable Texts
------------------------------------------------------------

/- No character of a text is below the space. -/
def Printable (text : List Char) : Prop :=
  ∀ c ∈ text, 0x20 ≤ c.toNat

instance (text : List Char) : Decidable (Printable text) :=
  List.decidableBAll (fun c : Char => 0x20 ≤ c.toNat) text

namespace Printable

theorem nil : Printable [] :=
  nofun

theorem append
    {text rest : List Char}
    (hText : Printable text)
    (hRest : Printable rest) : Printable (text ++ rest) :=
  List.forall_mem_append.mpr ⟨hText, hRest⟩

theorem cons
    {c : Char}
    {rest : List Char}
    (hChar : 0x20 ≤ c.toNat)
    (hRest : Printable rest) : Printable (c :: rest) :=
  List.forall_mem_cons.mpr ⟨hChar, hRest⟩

/- Numbers are printable. -/
theorem of_numerals
    {text : List Char}
    (hText : Numerals text) : Printable text := by
  intro c hMem
  rcases hText c hMem with (rfl | hDigit) | hOther
  · decide
  · simp only [Char.isDigit, Bool.and_eq_true,
      decide_eq_true_eq] at hDigit
    have hZero : '0'.val ≤ c.val := hDigit.1
    exact Nat.le_trans (by decide) hZero
  · have hOthers :
        Printable ['+', '.', 'e', 'N', 'a', 'i', 'n', 'f'] := by
      decide
    exact hOthers c hOther

end Printable

------------------------------------------------------------
-- Values
------------------------------------------------------------

namespace Json

theorem hexDigit_printable :
    ∀ n < 16, 0x20 ≤ (hexDigit n).toNat := by
  decide

/- A character below the space is escaped. -/
theorem escape_printable (c : Char) :
    Printable (escape c) := by
  unfold escape
  repeat' split
  -- The escapes by a letter are fixed texts.
  all_goals try decide
  case isTrue hLow =>
      have hHigh :
          Printable ['\\', 'u', '0', '0'] := by decide
      refine hHigh.append (Printable.cons ?_
        (Printable.cons ?_ Printable.nil))
      · exact hexDigit_printable _ (by omega)
      · exact hexDigit_printable _ (by omega)
  case isFalse hHigh =>
      exact Printable.cons (by omega) Printable.nil

theorem quote_printable (text : String) :
    Printable (quote text) := by
  refine Printable.append (Printable.cons (by decide) ?_)
    (by decide)
  intro c hMem
  rcases List.mem_flatMap.mp hMem with ⟨d, _, hEscape⟩
  exact escape_printable d c hEscape

mutual

/- The text of a value is printable. -/
theorem write_printable : (value :
    Json) → Printable (write value)
| null => by decide
| bool true => by decide
| bool false => by decide
| integer n =>
    Printable.of_numerals (signedDigits_toString n).numerals
| double x =>
    Printable.of_numerals (x.numerals_write Binary64.document)
| string text => quote_printable text
| array items =>
    Printable.cons (by decide)
      ((writeItems_printable items).append (by decide))
| object fields =>
    Printable.cons (by decide)
      ((writeFields_printable fields).append (by decide))

theorem writeItems_printable :
    (items : List Json) → Printable (writeItems items)
| [] => Printable.nil
| [item] => write_printable item
| item :: other :: rest =>
    (write_printable item).append
      (Printable.cons (by decide)
        (writeItems_printable (other :: rest)))

theorem writeFields_printable :
    (fields : List (String × Json)) →
      Printable (writeFields fields)
| [] => Printable.nil
| [(name, value)] =>
    (quote_printable name).append
      (Printable.cons (by decide) (write_printable value))
| (name, value) :: other :: rest =>
    ((quote_printable name).append
      (Printable.cons (by decide) (write_printable value))).append
        (Printable.cons (by decide)
          (writeFields_printable (other :: rest)))

end

end Json

------------------------------------------------------------
-- Lines
------------------------------------------------------------

/- A printable text does not end in a carriage return. -/
theorem withoutReturn_of_printable
    {line : List Char}
    (hLine : Printable line) :
    withoutReturn line.reverse = line.reverse := by
  cases hLast : line.reverse with
  | nil => rfl
  | cons c rest =>
      have hChar : 0x20 ≤ c.toNat := by
        apply hLine
        rw [← List.mem_reverse, hLast]
        exact List.mem_cons_self
      unfold withoutReturn
      split
      case h_1 _ _ hReturn =>
          cases hReturn
          exact absurd hChar (by decide)
      case h_2 => rfl

/- A printable text goes into one line. -/
theorem textLinesFrom_append
    {line : List Char}
    (hLine : Printable line)
    (reversed rest : List Char) :
    textLinesFrom reversed (line ++ rest) =
      textLinesFrom (line.reverse ++ reversed) rest := by
  induction line generalizing reversed with
  | nil => rfl
  | cons c line ih =>
      rcases List.forall_mem_cons.mp hLine with
        ⟨hChar, hLine⟩
      have hNot : c ≠ '\n' := by
        rintro rfl
        exact absurd hChar (by decide)
      rw [List.cons_append, textLinesFrom, if_neg hNot,
        ih hLine, List.reverse_cons, List.append_assoc]
      rfl

/- Lines that a line feed follows are read back. -/
theorem textLinesFrom_join
    {lines : List (List Char)}
    (hLines : ∀ line ∈ lines, Printable line) :
    textLinesFrom []
        (lines.flatMap fun line => line ++ ['\n']) =
      lines := by
  induction lines with
  | nil => rfl
  | cons line rest ih =>
      rcases List.forall_mem_cons.mp hLines with
        ⟨hLine, hRest⟩
      rw [List.flatMap_cons, List.append_assoc,
        textLinesFrom_append hLine, List.singleton_append,
        textLinesFrom, if_pos rfl, List.append_nil,
        withoutReturn_of_printable hLine,
        List.reverse_reverse, ih hRest]

end TracePlayer
