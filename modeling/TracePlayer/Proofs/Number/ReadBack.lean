import TracePlayer.Number.Written
import TracePlayer.Proofs.Json.Numerals
import TracePlayer.Proofs.Number.Nearest

/-
  This file proves that every double is read back from its
  text, in whatever layout it was written. So no two doubles
  have the same text.

  Main declarations:
    * `Binary64.readMagnitude?_digits`
    * `Binary64.ReadAs`
    * `Binary64.readMagnitude?_writeMagnitude`
    * `Binary64.read?_write`, `Binary64.write_injective`
-/

namespace TracePlayer

namespace Binary64

open Json (AllDigits allDigits_toDigits allDigits_zeros
  exponentText startsWithDigit takeWhile_of_not_digit valueFrom
  valueFrom_toDigits)

------------------------------------------------------------
-- Digits
------------------------------------------------------------

variable {ds rest : List Char}

theorem digitsValue_eq (ds : List Char) :
    digitsValue ds = valueFrom ds 0 := by
  unfold digitsValue valueFrom Nat.ofDigitChars
  congr 1
  funext n c
  rw [Nat.mul_comm]

/- A run of digits ends where no digit follows. -/
theorem span_digits
    (hDigits : AllDigits ds)
    (hRest : startsWithDigit rest = false) :
    (ds ++ rest).takeWhile Char.isDigit = ds ∧
      (ds ++ rest).dropWhile Char.isDigit = rest := by
  rw [List.takeWhile_append_of_pos hDigits,
    List.dropWhile_append_of_pos hDigits,
    takeWhile_of_not_digit hRest, List.append_nil]
  refine ⟨rfl, ?_⟩
  cases rest with
  | nil => rfl
  | cons c rest =>
      rw [startsWithDigit] at hRest
      rw [List.dropWhile_cons, hRest]
      rfl

/- A written exponent is read. -/
theorem readExponent?_toDigits (exponent : Int) :
    readExponent?
        ((if exponent < 0 then '-' else '+') ::
          Nat.toDigits 10 exponent.natAbs) =
      some exponent := by
  have hDigits :
      Nat.toDigits 10 exponent.natAbs ≠ [] ∧
        (Nat.toDigits 10 exponent.natAbs).all Char.isDigit =
          true :=
    ⟨Nat.toDigits_ne_nil,
      List.all_eq_true.mpr (allDigits_toDigits _)⟩
  split_ifs with hDown
  · simp only [readExponent?, if_pos hDigits, digitsValue_eq,
      valueFrom_toDigits, if_true, Option.some.injEq]
    omega
  · simp only [readExponent?, if_pos hDigits, digitsValue_eq,
      valueFrom_toDigits, Bool.false_eq_true, if_false,
      Option.some.injEq]
    omega

------------------------------------------------------------
-- Decimals
------------------------------------------------------------

/- The digits behind a point, if there is one, and the rest. -/
def fractionIn (cs : List Char) : List Char × List Char :=
  match cs with
  | '.' :: more =>
      (more.takeWhile Char.isDigit, more.dropWhile Char.isDigit)
  | _ => ([], cs)

/- The exponent that stands behind the digits. -/
def exponentIn? : List Char → Option Int
| [] => some 0
| 'e' :: more => readExponent? more
| 'E' :: more => readExponent? more
| _ => none

theorem readMagnitude?_eq
    (negative : Bool)
    (cs : List Char) :
    readMagnitude? negative cs =
      let whole := cs.takeWhile Char.isDigit
      let parts := fractionIn (cs.dropWhile Char.isDigit)
      if whole ++ parts.1 = [] then
        none
      else
        (exponentIn? parts.2).map fun exponent =>
          ofDecimal negative (digitsValue (whole ++ parts.1))
            (exponent - parts.1.length) :=
  rfl

/- A fraction behind its point; an empty one has no point. -/
def pointed : List Char → List Char
| [] => []
| fraction => '.' :: fraction

theorem pointed_of_ne_nil
    {fraction : List Char}
    (hSome : fraction ≠ []) :
    pointed fraction = '.' :: fraction := by
  cases fraction with
  | nil => exact absurd rfl hSome
  | cons c others => rfl

/- What may stand behind the digits of a decimal. -/
inductive Tail : List Char → Int → Prop where
| nothing : Tail [] 0
| exponent (e : Int) : Tail (exponentText e) e

section

variable {whole fraction tail : List Char}
variable {exponent : Int}

theorem Tail.startsWithDigit_eq
    (hTail : Tail tail exponent) :
    startsWithDigit tail = false := by
  cases hTail <;> rfl

theorem Tail.exponentIn?_eq
    (hTail : Tail tail exponent) :
    exponentIn? tail = some exponent := by
  cases hTail with
  | nothing => rfl
  | exponent => exact readExponent?_toDigits exponent

theorem fractionIn_pointed
    (hFraction : AllDigits fraction)
    (hTail : Tail tail exponent) :
    fractionIn (pointed fraction ++ tail) = (fraction, tail) := by
  cases fraction with
  | nil => cases hTail <;> rfl
  | cons c others =>
      rcases span_digits hFraction hTail.startsWithDigit_eq with
        ⟨hTaken, hDropped⟩
      exact Prod.ext hTaken hDropped

/- The text of a decimal is read as its digits and exponent. -/
theorem readMagnitude?_digits
    (hWhole : AllDigits whole)
    (hSome : whole ≠ [])
    (hFraction : AllDigits fraction)
    (hTail : Tail tail exponent)
    (negative : Bool) :
    readMagnitude? negative
        (whole ++ (pointed fraction ++ tail)) =
      some (ofDecimal negative (valueFrom (whole ++ fraction) 0)
        (exponent - fraction.length)) := by
  have hPoint :
      startsWithDigit (pointed fraction ++ tail) = false := by
    cases fraction with
    | nil => exact hTail.startsWithDigit_eq
    | cons c others => rfl
  rcases span_digits hWhole hPoint with ⟨hTaken, hDropped⟩
  have hDigits : whole ++ fraction ≠ [] :=
    List.append_ne_nil_of_left_ne_nil hSome fraction
  rw [readMagnitude?_eq, hTaken, hDropped,
    fractionIn_pointed hFraction hTail]
  dsimp only
  rw [if_neg hDigits, hTail.exponentIn?_eq, digitsValue_eq,
    Option.map_some]

end

------------------------------------------------------------
-- Written Decimals
------------------------------------------------------------

/-
  A text of digits that is read as a decimal, whose last
  digits may be zeros that were added.
-/
def ReadAs
    (cs : List Char)
    (d : Decimal) : Prop :=
  ∃ count : Nat, ∀ negative,
    readMagnitude? negative cs =
      some (ofDecimal negative
        (d.significand * Nat.pow 10 count)
        (d.exponent - count))

section

variable {d : Decimal}

theorem readAs_of_parts
    {whole fraction tail : List Char}
    {exponent : Int}
    (hWhole : AllDigits whole)
    (hSome : whole ≠ [])
    (hFraction : AllDigits fraction)
    (hTail : Tail tail exponent)
    (count : Nat)
    (hValue :
      valueFrom (whole ++ fraction) 0 =
        d.significand * Nat.pow 10 count)
    (hPlaces :
      exponent - fraction.length = d.exponent - count) :
    ReadAs (whole ++ (pointed fraction ++ tail)) d := by
  refine ⟨count, fun negative => ?_⟩
  rw [readMagnitude?_digits hWhole hSome hFraction hTail,
    hValue, hPlaces]

/- Digits with a point among them. -/
theorem readAs_pointed
    {whole fraction : List Char}
    (hWhole : AllDigits whole)
    (hSome : whole ≠ [])
    (hFraction : AllDigits fraction)
    (hBehind : fraction ≠ [])
    (count : Nat)
    (hValue :
      valueFrom (whole ++ fraction) 0 =
        d.significand * Nat.pow 10 count)
    (hPlaces :
      (count : Int) - fraction.length = d.exponent) :
    ReadAs (whole ++ '.' :: fraction) d := by
  have hRead :=
    readAs_of_parts hWhole hSome hFraction Tail.nothing count
      hValue (by omega)
  rwa [List.append_nil, pointed_of_ne_nil hBehind] at hRead

/- Digits without a point. -/
theorem readAs_whole
    {whole : List Char}
    (hWhole : AllDigits whole)
    (hSome : whole ≠ [])
    (count : Nat)
    (hValue :
      valueFrom whole 0 = d.significand * Nat.pow 10 count)
    (hPlaces : (count : Int) = d.exponent) :
    ReadAs whole d := by
  have hNothing : AllDigits [] := nofun
  have hRead :=
    readAs_of_parts hWhole hSome hNothing Tail.nothing count
      (by rwa [List.append_nil])
      (by rw [List.length_nil]; omega)
  rwa [pointed, List.append_nil, List.append_nil] at hRead

/- A decimal is read from its digits and an exponent. -/
theorem readAs_scientific (d : Decimal) :
    ReadAs
      (scientificDigits d.digits
        (d.digits.length + d.exponent - 1)) d := by
  have hDigits : AllDigits d.digits :=
    allDigits_toDigits d.significand
  have hValue : valueFrom d.digits 0 = d.significand :=
    valueFrom_toDigits d.significand
  have hSome : d.digits ≠ [] := Nat.toDigits_ne_nil
  have hTail :=
    Tail.exponent (d.digits.length + d.exponent - 1)
  generalize d.digits = digits at hDigits hValue hSome hTail ⊢
  rcases digits with _ | ⟨c, fraction⟩
  · exact absurd rfl hSome
  · rcases List.forall_mem_cons.mp hDigits with
      ⟨hFirst, hFraction⟩
    have hWhole : AllDigits [c] :=
      List.forall_mem_singleton.mpr hFirst
    have hText :
        scientificDigits (c :: fraction)
            ((c :: fraction).length + d.exponent - 1) =
          [c] ++ (pointed fraction ++
            exponentText
              ((c :: fraction).length + d.exponent - 1)) := by
      cases fraction <;> rfl
    rw [hText]
    refine readAs_of_parts hWhole (List.cons_ne_nil _ _)
      hFraction hTail 0 ?_ ?_
    · exact hValue.trans (Nat.mul_one _).symm
    · rw [List.length_cons]
      omega

/- The value of digits behind zeros, and before zeros. -/
theorem valueFrom_zeros_append
    (count : Nat)
    (ds : List Char) :
    valueFrom (zeros count ++ ds) 0 = valueFrom ds 0 := by
  rw [valueFrom, Nat.ofDigitChars_append, zeros,
    Nat.ofDigitChars_replicate_zero, Nat.mul_zero]

theorem valueFrom_append_zeros
    (ds : List Char)
    (count : Nat) :
    valueFrom (ds ++ zeros count) 0 =
      valueFrom ds 0 * Nat.pow 10 count := by
  rw [valueFrom, Nat.ofDigitChars_append, zeros,
    Nat.ofDigitChars_replicate_zero, Nat.mul_comm]
  rfl

/- A decimal is read from its digits and a point. -/
theorem readAs_positional
    (d : Decimal)
    (fraction : Bool) :
    ReadAs
      (positionalDigits d.digits
        (d.digits.length + d.exponent) fraction) d := by
  have hDigits : AllDigits d.digits :=
    allDigits_toDigits d.significand
  have hValue : valueFrom d.digits 0 = d.significand :=
    valueFrom_toDigits d.significand
  have hSome : d.digits ≠ [] := Nat.toDigits_ne_nil
  generalize d.digits = digits at hDigits hValue hSome ⊢
  have hWhole (count : Nat) :
      valueFrom (digits ++ zeros count) 0 =
        d.significand * Nat.pow 10 count := by
    rw [valueFrom_append_zeros, hValue]
  have hLonger (count : Nat) :
      AllDigits (digits ++ zeros count) :=
    hDigits.append (allDigits_zeros count)
  have hMore (count : Nat) : digits ++ zeros count ≠ [] :=
    List.append_ne_nil_of_left_ne_nil hSome _
  unfold positionalDigits
  split_ifs with hBefore hBehind hKept
  · -- All digits stand behind the point.
    generalize hCount :
      (digits.length + d.exponent).natAbs = count
    change ReadAs (zeros 1 ++ '.' :: (zeros count ++ digits)) d
    refine readAs_pointed (allDigits_zeros 1)
      (List.cons_ne_nil _ _)
      ((allDigits_zeros count).append hDigits)
      (List.append_ne_nil_of_right_ne_nil _ hSome) 0 ?_ ?_
    · rw [valueFrom_zeros_append, valueFrom_zeros_append, hValue]
      exact (Nat.mul_one _).symm
    · rw [List.length_append, zeros, List.length_replicate]
      omega
  · -- All digits stand before the point, and one zero behind.
    generalize hCount :
      (digits.length + d.exponent).toNat - digits.length = count
    change ReadAs (digits ++ zeros count ++ '.' :: zeros 1) d
    refine readAs_pointed (hLonger count) (hMore count)
      (allDigits_zeros 1) (List.cons_ne_nil _ _) (count + 1)
      ?_ ?_
    · rw [List.append_assoc]
      unfold zeros
      rw [List.replicate_append_replicate]
      exact hWhole (count + 1)
    · rw [zeros, List.length_replicate]
      omega
  · generalize hCount :
      (digits.length + d.exponent).toNat - digits.length = count
    rw [List.append_nil]
    exact readAs_whole (hLonger count) (hMore count) count
      (hWhole count) (by omega)
  · -- The point stands among the digits.
    rw [List.append_assoc, List.singleton_append]
    refine readAs_pointed
      (fun c hMem => hDigits c (List.mem_of_mem_take hMem)) ?_
      (fun c hMem => hDigits c (List.mem_of_mem_drop hMem)) ?_
      0 ?_ ?_
    · simp only [ne_eq, List.take_eq_nil_iff, not_or]
      exact ⟨by omega, hSome⟩
    · simp only [ne_eq, List.drop_eq_nil_iff]
      omega
    · rw [List.take_append_drop, hValue]
      exact (Nat.mul_one _).symm
    · rw [List.length_drop]
      omega

end

------------------------------------------------------------
-- Doubles
------------------------------------------------------------

/- A written magnitude is read back. -/
theorem readMagnitude?_writeMagnitude
    {magnitude : Nat}
    (hValid : Representable magnitude)
    (layout : Layout)
    (negative : Bool) :
    readMagnitude? negative (writeMagnitude layout magnitude) =
      some (finite negative magnitude hValid) := by
  unfold writeMagnitude
  by_cases hZero : magnitude = 0
  · subst hZero
    cases layout.fraction <;> rfl
  · have hRounds := roundsTo_shortest hValid hZero layout.tie
    rw [if_neg hZero]
    generalize shortest layout.tie magnitude = d at hRounds ⊢
    dsimp only
    have hText :
        ReadAs
          (if layout.positional
              (d.digits.length + d.exponent - 1) then
            positionalDigits d.digits
              (d.digits.length + d.exponent) layout.fraction
          else
            scientificDigits d.digits
              (d.digits.length + d.exponent - 1)) d := by
      split_ifs
      · exact readAs_positional d layout.fraction
      · exact readAs_scientific d
    rcases hText with ⟨count, hRead⟩
    rw [hRead negative]
    congr 1
    refine ofDecimal_of_roundsTo hValid ?_ hZero negative
    rw [roundsTo_shift_iff, Int.sub_add_cancel]
    exact hRounds

/- A decimal starts with a digit or with the point. -/
theorem first_of_readMagnitude?
    {negative : Bool}
    {cs : List Char}
    {x : Binary64}
    (hRead : readMagnitude? negative cs = some x) :
    ∃ c others, cs = c :: others ∧
      (c.isDigit = true ∨ c = '.') := by
  cases cs with
  | nil => cases hRead
  | cons c others =>
      refine ⟨c, others, rfl, ?_⟩
      by_contra hOther
      rw [not_or, Bool.not_eq_true] at hOther
      have hNothing :
          fractionIn (c :: others) = ([], c :: others) := by
        unfold fractionIn
        split
        case h_1 hPoint =>
            cases hPoint
            exact absurd rfl hOther.2
        case h_2 => rfl
      rw [readMagnitude?_eq, List.takeWhile_cons,
        List.dropWhile_cons, hOther.1] at hRead
      simp [hNothing] at hRead

/- Its first character is no letter, in either case. -/
theorem toLower_of_first
    {c : Char}
    (hFirst : c.isDigit = true ∨ c = '.') :
    c.toLower = c := by
  have hBelow : c.val ≤ '9'.val := by
    rcases hFirst with hDigit | rfl
    · simp only [Char.isDigit, Bool.and_eq_true,
        decide_eq_true_eq] at hDigit
      exact hDigit.2
    · decide
  refine dif_neg fun hUpper => ?_
  have hLetter : 'A'.val ≤ '9'.val :=
    UInt32.le_trans hUpper.1 hBelow
  exact absurd hLetter (by decide)

/- The sign of a text, if it has one, and the rest. -/
def signIn (cs : List Char) : Bool × List Char :=
  match cs with
  | '-' :: rest => (true, rest)
  | '+' :: rest => (false, rest)
  | cs => (false, cs)

theorem read?_eq (text : String) :
    read? text =
      let parts := signIn text.toList
      let lower := String.ofList (parts.2.map Char.toLower)
      if lower = "inf" ∨ lower = "infinity" then
        some (infinite parts.1)
      else if lower = "nan" then
        some nan
      else
        readMagnitude? parts.1 parts.2 :=
  rfl

theorem signIn_of_first
    {c : Char}
    (hFirst : c.isDigit = true ∨ c = '.')
    (negative : Bool)
    (others : List Char) :
    signIn ((if negative then ['-'] else []) ++ c :: others) =
      (negative, c :: others) := by
  cases negative with
  | true => rfl
  | false =>
      change signIn (c :: others) = _
      unfold signIn
      split
      case h_1 hMinus =>
          cases hMinus
          exact absurd hFirst (by decide)
      case h_2 hPlus =>
          cases hPlus
          exact absurd hFirst (by decide)
      case h_3 => rfl

/- A sign and a decimal are read as the signed decimal. -/
theorem read?_of_readMagnitude?
    {negative : Bool}
    {cs : List Char}
    {x : Binary64}
    (hRead : readMagnitude? negative cs = some x) :
    read? (String.ofList
      ((if negative then ['-'] else []) ++ cs)) = some x := by
  rcases first_of_readMagnitude? hRead with
    ⟨c, others, rfl, hFirst⟩
  have hWord
      (word : String)
      (letter : Char)
      (hStart : word.toList.head? = some letter)
      (hLetter : ¬ (letter.isDigit = true ∨ letter = '.')) :
      String.ofList ((c :: others).map Char.toLower) ≠ word := by
    rintro rfl
    rw [String.toList_ofList, List.map_cons, List.head?_cons,
      toLower_of_first hFirst, Option.some.injEq] at hStart
    exact hLetter (hStart ▸ hFirst)
  have hInfinite :=
    not_or.mpr
      ⟨hWord "inf" 'i' rfl (by decide),
        hWord "infinity" 'i' rfl (by decide)⟩
  rw [read?_eq, String.toList_ofList, signIn_of_first hFirst]
  dsimp only
  rw [if_neg hInfinite, if_neg (hWord "nan" 'n' rfl (by decide)),
    hRead]

/- Every double is read back from its text. -/
theorem read?_write
    (layout : Layout)
    (x : Binary64) :
    read? (x.write layout) = some x := by
  cases x with
  | nan =>
      have hRead : read? "NaN" = some nan := by decide
      exact hRead
  | infinite negative =>
      have hRead :
          read? "-inf" = some (infinite true) ∧
            read? "inf" = some (infinite false) := by
        decide
      cases negative with
      | true => exact hRead.1
      | false => exact hRead.2
  | finite negative magnitude hValid =>
      exact read?_of_readMagnitude?
        (readMagnitude?_writeMagnitude hValid layout negative)

/- No two doubles have the same text. -/
theorem write_injective (layout : Layout) :
    Function.Injective (write layout) := by
  intro x y hSame
  have hRead := read?_write layout x
  rw [hSame, read?_write, Option.some.injEq] at hRead
  exact hRead.symm

end Binary64

end TracePlayer
