import TracePlayer.Number.Written

/-
  This file proves which characters numbers are written with:
  an integer with digits behind an optional minus, a double
  also with other characters, of which it has at least one in
  a document.

  Main declarations:
    * `SignedDigits`, `Numerals`
    * `signedDigits_toString`
    * `Binary64.numerals_write`
    * `Binary64.not_signedDigits_write`
-/

namespace TracePlayer

------------------------------------------------------------
-- Characters of Numbers
------------------------------------------------------------

/- A character that integers are written with. -/
def Signed (c : Char) : Prop :=
  c = '-' ∨ c.isDigit = true

instance (c : Char) : Decidable (Signed c) :=
  inferInstanceAs (Decidable (_ ∨ _))

/- A character that numbers are written with. -/
def Numeral (c : Char) : Prop :=
  Signed c ∨ c ∈ ['+', '.', 'e', 'N', 'a', 'i', 'n', 'f']

instance (c : Char) : Decidable (Numeral c) :=
  inferInstanceAs (Decidable (_ ∨ _))

/- Texts with no other characters. -/
def SignedDigits (text : List Char) : Prop :=
  ∀ c ∈ text, Signed c

def Numerals (text : List Char) : Prop :=
  ∀ c ∈ text, Numeral c

instance (text : List Char) : Decidable (SignedDigits text) :=
  List.decidableBAll Signed text

instance (text : List Char) : Decidable (Numerals text) :=
  List.decidableBAll Numeral text

theorem Numerals.append
    {text rest : List Char}
    (hText : Numerals text)
    (hRest : Numerals rest) : Numerals (text ++ rest) :=
  List.forall_mem_append.mpr ⟨hText, hRest⟩

theorem SignedDigits.numerals
    {text : List Char}
    (hText : SignedDigits text) : Numerals text :=
  fun c hMem => .inl (hText c hMem)

theorem signedDigits_toDigits (n : Nat) :
    SignedDigits (Nat.toDigits 10 n) :=
  fun _ hMem =>
    .inr (Nat.isDigit_of_mem_toDigits (by decide) (by decide)
      hMem)

theorem numerals_toDigits (n : Nat) :
    Numerals (Nat.toDigits 10 n) :=
  (signedDigits_toDigits n).numerals

------------------------------------------------------------
-- Integers
------------------------------------------------------------

/- The text of an integer: its digits, behind its sign. -/
theorem toList_toString_ofNat (n : Nat) :
    (toString (Int.ofNat n)).toList = Nat.toDigits 10 n := by
  simp [toString, Int.repr, Nat.repr]

theorem toList_toString_negSucc (n : Nat) :
    (toString (Int.negSucc n)).toList =
      '-' :: Nat.toDigits 10 (n + 1) := by
  simp [toString, Int.repr, Nat.repr]

theorem signedDigits_toString (n : Int) :
    SignedDigits (toString n).toList := by
  cases n with
  | ofNat n =>
      rw [toList_toString_ofNat]
      exact signedDigits_toDigits n
  | negSucc n =>
      rw [toList_toString_negSucc]
      exact List.forall_mem_cons.mpr
        ⟨.inl rfl, signedDigits_toDigits (n + 1)⟩

/- Every integer has some digits. -/
theorem toString_ne_nil (n : Int) :
    (toString n).toList ≠ [] := by
  cases n with
  | ofNat n =>
      rw [toList_toString_ofNat]
      exact Nat.toDigits_ne_nil
  | negSucc n =>
      rw [toList_toString_negSucc]
      exact List.cons_ne_nil _ _

------------------------------------------------------------
-- Doubles
------------------------------------------------------------

namespace Binary64

theorem numerals_zeros (n : Nat) :
    Numerals (zeros n) := by
  intro c hMem
  rw [List.eq_of_mem_replicate hMem]
  decide

theorem numerals_positionalDigits
    {digits : List Char}
    (hDigits : Numerals digits)
    (point : Int)
    (fraction : Bool) :
    Numerals (positionalDigits digits point fraction) := by
  unfold positionalDigits
  split
  · exact (Numerals.append (by decide)
      (numerals_zeros _)).append hDigits
  · split
    · refine (hDigits.append (numerals_zeros _)).append ?_
      split <;> decide
    · exact
        (Numerals.append
          (fun c hMem => hDigits c (List.mem_of_mem_take hMem))
          (by decide)).append
          (fun c hMem => hDigits c (List.mem_of_mem_drop hMem))

theorem numerals_scientificDigits
    {digits : List Char}
    (hDigits : Numerals digits)
    (exponent : Int) :
    Numerals (scientificDigits digits exponent) := by
  have hTail :
      Numerals
        (['e', if exponent < 0 then '-' else '+'] ++
          Nat.toDigits 10 exponent.natAbs) := by
    refine Numerals.append ?_ (numerals_toDigits _)
    split <;> decide
  unfold scientificDigits
  dsimp only
  split
  case h_1 => exact hTail
  case h_2 d => exact hDigits.append hTail
  case h_3 d rest _ =>
      rcases List.forall_mem_cons.mp hDigits with
        ⟨hFirst, hRest⟩
      exact List.forall_mem_cons.mpr ⟨hFirst,
        List.forall_mem_cons.mpr
          ⟨by decide, Numerals.append hRest hTail⟩⟩

theorem numerals_writeMagnitude
    (layout : Layout)
    (magnitude : Nat) :
    Numerals (writeMagnitude layout magnitude) := by
  unfold writeMagnitude
  split
  · split <;> decide
  · dsimp only
    split
    · exact
        numerals_positionalDigits (numerals_toDigits _) _ _
    · exact numerals_scientificDigits (numerals_toDigits _) _

/- A double is written with the characters of numbers. -/
theorem numerals_write
    (layout : Layout)
    (x : Binary64) : Numerals (x.write layout).toList := by
  cases x with
  | nan =>
      have hText : Numerals "NaN".toList := by decide
      exact hText
  | infinite negative =>
      have hText :
          Numerals "-inf".toList ∧ Numerals "inf".toList := by
        decide
      cases negative with
      | true => exact hText.1
      | false => exact hText.2
  | finite negative magnitude hValid =>
      rw [write, String.toList_ofList]
      refine Numerals.append ?_
        (numerals_writeMagnitude layout magnitude)
      split <;> decide

/- With a fraction, positional digits have a point. -/
theorem point_mem_positionalDigits
    (digits : List Char)
    (point : Int) :
    '.' ∈ positionalDigits digits point true := by
  unfold positionalDigits
  split
  · simp
  · split <;> simp

theorem e_mem_scientificDigits
    (digits : List Char)
    (exponent : Int) :
    'e' ∈ scientificDigits digits exponent := by
  unfold scientificDigits
  dsimp only
  split <;> simp

/- In a document, no double is written like an integer. -/
theorem not_signedDigits_write (x : Binary64) :
    ¬ SignedDigits (x.write document).toList := by
  cases x with
  | nan =>
      have hText : ¬ SignedDigits "NaN".toList := by decide
      exact hText
  | infinite negative =>
      have hText :
          ¬ SignedDigits "-inf".toList ∧
            ¬ SignedDigits "inf".toList := by
        decide
      cases negative with
      | true => exact hText.1
      | false => exact hText.2
  | finite negative magnitude hValid =>
      have hMagnitude :
          ¬ SignedDigits (writeMagnitude document magnitude) := by
        unfold writeMagnitude
        split
        · decide
        · dsimp only
          split
          · exact fun hDigits =>
              absurd
                (hDigits '.' (point_mem_positionalDigits _ _))
                (by decide)
          · exact fun hDigits =>
              absurd (hDigits 'e' (e_mem_scientificDigits _ _))
                (by decide)
      rw [write, String.toList_ofList]
      exact fun hDigits =>
        hMagnitude (List.forall_mem_append.mp hDigits).2

end Binary64

end TracePlayer
