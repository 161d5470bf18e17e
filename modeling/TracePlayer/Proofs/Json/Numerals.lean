import Mathlib.Data.List.Basic
import TracePlayer.Json.Text
import TracePlayer.Proofs.Json.Scaling
import TracePlayer.Proofs.Number.Characters

/-
  This file proves that the number written for an integer of
  64 bits is read as that integer, and the number written for
  a finite double as some double, whatever follows it in an
  array or an object.

  Main declarations:
    * `Json.Ends`
    * `Json.collect_digits`, `Json.collectExponent_digits`
    * `Json.readUnsigned_digits`, `Json.readFraction_digits`
    * `Json.readNumber_integer`
    * `Json.readNumber_double`
-/

namespace TracePlayer

namespace Json

------------------------------------------------------------
-- Digits
------------------------------------------------------------

/- What follows a value: nothing, or a mark. -/
def Ends (rest : List Char) : Prop :=
  ∀ c ∈ rest.head?, c = ',' ∨ c = ']' ∨ c = '\x7d'

/- A list of digits. -/
def AllDigits (cs : List Char) : Prop :=
  ∀ c ∈ cs, c.isDigit = true

theorem allDigits_toDigits (n : Nat) :
    AllDigits (Nat.toDigits 10 n) :=
  fun _ hMem =>
    Nat.isDigit_of_mem_toDigits (by decide) (by decide) hMem

theorem allDigits_zeros (n : Nat) :
    AllDigits (Binary64.zeros n) := by
  intro c hMem
  rw [List.eq_of_mem_replicate hMem]
  rfl

theorem AllDigits.append
    {cs ds : List Char}
    (hFirst : AllDigits cs)
    (hSecond : AllDigits ds) : AllDigits (cs ++ ds) :=
  List.forall_mem_append.mpr ⟨hFirst, hSecond⟩

/- The value of digits after others. -/
abbrev valueFrom (ds : List Char) (n : Nat) : Nat :=
  Nat.ofDigitChars 10 ds n

/- More digits do not make a number smaller. -/
theorem le_valueFrom
    (ds : List Char)
    (n : Nat) : n ≤ valueFrom ds n := by
  induction ds generalizing n with
  | nil => exact Nat.le_refl n
  | cons c ds ih =>
      rw [valueFrom, Nat.ofDigitChars_cons]
      refine Nat.le_trans ?_ (ih _)
      omega

variable {ds rest : List Char}

/- A text that does not start with a digit has no run of them. -/
theorem takeWhile_of_not_digit
    (hRest : startsWithDigit rest = false) :
    rest.takeWhile Char.isDigit = [] := by
  cases rest with
  | nil => rfl
  | cons c rest =>
      rw [List.takeWhile_cons]
      rw [startsWithDigit] at hRest
      rw [hRest]
      rfl

/- Digits that fit are all collected. -/
theorem collect_digits
    {n : Nat}
    (hDigits : AllDigits ds)
    (hRest : startsWithDigit rest = false)
    (hFits : valueFrom ds n < significandLimit) :
    collect n (ds ++ rest) = (valueFrom ds n, rest) := by
  induction ds generalizing n with
  | nil =>
      cases rest with
      | nil => rfl
      | cons c rest =>
          rw [startsWithDigit] at hRest
          rw [List.nil_append, collect]
          simp [hRest]
  | cons c ds ih =>
      rcases List.forall_mem_cons.mp hDigits with
        ⟨hDigit, hOthers⟩
      rw [valueFrom, Nat.ofDigitChars_cons, Nat.mul_comm]
        at hFits ⊢
      have hNext :=
        Nat.lt_of_le_of_lt (le_valueFrom ds _) hFits
      rw [List.cons_append, collect]
      simp only [digitValue, hDigit, hNext, and_self, if_true]
      exact ih hOthers hFits

/- The digits of an exponent that is allowed are all read. -/
theorem collectExponent_digits
    {n count : Nat}
    (hDigits : AllDigits ds)
    (hRest : startsWithDigit rest = false)
    (hFits : valueFrom ds n ≤ exponentLimit) :
    collectExponent n count (ds ++ rest) =
      .ok (valueFrom ds n, count + ds.length, rest) := by
  induction ds generalizing n count with
  | nil =>
      cases rest with
      | nil => rfl
      | cons c rest =>
          rw [startsWithDigit] at hRest
          rw [List.nil_append, collectExponent]
          simp [hRest]
  | cons c ds ih =>
      rcases List.forall_mem_cons.mp hDigits with
        ⟨hDigit, hOthers⟩
      rw [valueFrom, Nat.ofDigitChars_cons, Nat.mul_comm]
        at hFits ⊢
      have hNext := Nat.le_trans (le_valueFrom ds _) hFits
      rw [List.cons_append, collectExponent, if_pos hDigit,
        digitValue]
      dsimp only
      rw [if_neg (Nat.not_lt_of_le hNext), ih hOthers hFits,
        List.length_cons, Nat.add_assoc, Nat.add_comm 1]

------------------------------------------------------------
-- Numbers
------------------------------------------------------------

/- The digits that a number starts with: a zero stands alone. -/
structure Leading (ds : List Char) : Prop where
  digits : AllDigits ds
  nonempty : ds ≠ []
  zero : ds.head? = some '0' → ds = ['0']

theorem Leading.startsWithDigit_append
    (hLeading : Leading ds)
    (rest : List Char) :
    startsWithDigit (ds ++ rest) = true := by
  cases hDs : ds with
  | nil => exact absurd hDs hLeading.nonempty
  | cons c cs =>
      exact hLeading.digits c (hDs ▸ List.mem_cons_self)

/- A leading zero is all there is. -/
theorem Leading.eq_of_zero
    {others : List Char}
    (hLeading : Leading ds)
    (hZero : ds ++ rest = '0' :: others) :
    ds = ['0'] ∧ rest = others := by
  have hHead : ds.head? = some '0' := by
    cases hDs : ds with
    | nil => exact absurd hDs hLeading.nonempty
    | cons c cs =>
        rw [hDs, List.cons_append] at hZero
        rw [List.head?_cons, (List.cons_eq_cons.mp hZero).1]
  have hAlone := hLeading.zero hHead
  rw [hAlone] at hZero
  exact ⟨hAlone, (List.cons_eq_cons.mp hZero).2⟩

/- What is read after the leading digits of a number. -/
def readRest
    (negative : Bool)
    (significand bytes : Nat) :
    List Char → Except Complaint NumberRead
| '.' :: more =>
    readFraction negative significand 0 (bytes + 1) more
| more =>
    if more.head? ≠ some 'e' ∧ more.head? ≠ some 'E' then
      .ok ⟨signedInteger negative significand, bytes, more⟩
    else
      readTail negative significand 0 bytes more

/- Leading digits that fit are read, then what follows them. -/
theorem readUnsigned_digits
    (hLeading : Leading ds)
    (hRest : startsWithDigit rest = false)
    (hFits : valueFrom ds 0 < significandLimit)
    (negative : Bool)
    (bytes : Nat) :
    readUnsigned negative bytes (ds ++ rest) =
      readRest negative (valueFrom ds 0)
        (bytes + ds.length) rest := by
  unfold readUnsigned
  rw [if_pos (hLeading.startsWithDigit_append rest)]
  dsimp only
  split
  case h_1 others hZero =>
      rcases hLeading.eq_of_zero hZero with ⟨rfl, rfl⟩
      simp only [hRest, takeWhile_of_not_digit hRest, valueFrom,
        Nat.ofDigitChars_cons, Nat.ofDigitChars_nil,
        List.length_nil, List.drop_zero, Bool.false_eq_true,
        and_false, if_false, true_and, Nat.mul_zero,
        Nat.sub_self, Nat.add_zero, Nat.cast_zero,
        List.length_append, Nat.add_sub_cancel]
      rfl
  case h_2 =>
      rw [collect_digits hLeading.digits hRest hFits]
      simp only [hRest, takeWhile_of_not_digit hRest,
        List.length_nil, List.drop_zero, Bool.false_eq_true,
        and_false, if_false, true_and, Nat.add_zero,
        Nat.cast_zero, List.length_append, Nat.add_sub_cancel]
      rfl

section

variable (negative : Bool)
variable (significand bytes : Nat)
variable (places : Int)

/- Digits after the point are read, then what follows them. -/
theorem readFraction_digits
    (hDigits : AllDigits ds)
    (hSome : ds ≠ [])
    (hRest : startsWithDigit rest = false)
    (hFits : valueFrom ds significand < significandLimit) :
    readFraction negative significand places bytes
        (ds ++ rest) =
      readTail negative (valueFrom ds significand)
        (places - ds.length) (bytes + ds.length) rest := by
  have hStart : startsWithDigit (ds ++ rest) = true := by
    cases hDs : ds with
    | nil => exact absurd hDs hSome
    | cons c cs => exact hDigits c (hDs ▸ List.mem_cons_self)
  unfold readFraction
  rw [if_pos hStart, collect_digits hDigits hRest hFits]
  simp only [takeWhile_of_not_digit hRest, List.length_nil,
    List.drop_zero, List.length_append, Nat.add_sub_cancel,
    Nat.add_zero]

/- A mark is neither a digit nor a part of a number. -/
theorem Ends.not_digit
    (hEnds : Ends rest) : startsWithDigit rest = false := by
  cases rest with
  | nil => rfl
  | cons c rest =>
      rcases hEnds c rfl with rfl | rfl | rfl <;> rfl

/- A number without an exponent ends where a value ends. -/
theorem readTail_ends
    (hEnds : Ends rest) :
    readTail negative significand places bytes rest =
      endDouble negative significand places bytes rest := by
  cases rest with
  | nil => rfl
  | cons c rest =>
      rcases hEnds c rfl with rfl | rfl | rfl <;> rfl

/- The text of an exponent. -/
def exponentText (exponent : Int) : List Char :=
  'e' :: (if exponent < 0 then '-' else '+') ::
    Nat.toDigits 10 exponent.natAbs

/- A written exponent that is allowed is added to the places. -/
theorem readTail_exponent
    {exponent : Int}
    (hAllowed : exponent.natAbs ≤ exponentLimit)
    (hEnds : Ends rest) :
    readTail negative significand places bytes
        (exponentText exponent ++ rest) =
      endDouble negative significand (places + exponent)
        (bytes + (exponentText exponent).length) rest := by
  have hValue :
      valueFrom (Nat.toDigits 10 exponent.natAbs) 0 =
        exponent.natAbs :=
    Nat.ofDigitChars_ten_toDigits
  have hDigits := allDigits_toDigits exponent.natAbs
  have hStart :
      startsWithDigit
        (Nat.toDigits 10 exponent.natAbs ++ rest) = true := by
    cases hDs : Nat.toDigits 10 exponent.natAbs with
    | nil => exact absurd hDs Nat.toDigits_ne_nil
    | cons c cs => exact hDigits c (hDs ▸ List.mem_cons_self)
  have hRead :
      collectExponent 0 0
          (Nat.toDigits 10 exponent.natAbs ++ rest) =
        .ok (exponent.natAbs,
          (Nat.toDigits 10 exponent.natAbs).length, rest) := by
    rw [collectExponent_digits hDigits hEnds.not_digit
      (by rwa [hValue]), hValue, Nat.zero_add]
  have hLength :
      bytes + 1 + 1 + (Nat.toDigits 10 exponent.natAbs).length =
        bytes + (exponentText exponent).length := by
    simp only [exponentText, List.length_cons]
    omega
  rw [← hLength]
  unfold exponentText
  rcases Int.lt_or_le exponent 0 with hDown | hUp
  · have hSum : places - exponent.natAbs = places + exponent := by
      omega
    rw [if_pos hDown]
    simp only [List.cons_append, readTail, readExponent, hStart,
      hRead, if_true, hSum]
  · have hSum : places + exponent.natAbs = places + exponent := by
      omega
    rw [if_neg (by omega)]
    simp only [List.cons_append, readTail, readExponent, hStart,
      hRead, if_true, hSum, Bool.false_eq_true, if_false]

end

------------------------------------------------------------
-- Written Numbers
------------------------------------------------------------

/-
  A text that is read as a value, wherever it stands and
  whatever ends it.
-/
def Reads
    (negative : Bool)
    (cs : List Char)
    (value : Json) : Prop :=
  ∀ bytes rest, Ends rest →
    readUnsigned negative bytes (cs ++ rest) =
      .ok ⟨value, bytes + cs.length, rest⟩

theorem digitChar_ne_zero :
    ∀ n < 10, n ≠ 0 → n.digitChar ≠ '0' := by
  decide

/- The digits of a positive number start with no zero. -/
theorem head?_toDigits_ne
    {n : Nat}
    (hPositive : n ≠ 0) :
    (Nat.toDigits 10 n).head? ≠ some '0' := by
  induction n using Nat.strong_induction_on with
  | _ n ih =>
      rcases Nat.lt_or_ge n 10 with hOne | hMore
      · rw [Nat.toDigits_of_lt_base hOne, List.head?_cons]
        exact fun hZero =>
          digitChar_ne_zero n hOne hPositive
            (Option.some.inj hZero)
      · rw [Nat.toDigits_of_base_le (by decide) hMore,
          List.head?_append_of_ne_nil _ Nat.toDigits_ne_nil]
        exact ih (n / 10) (by omega) (by omega)

theorem leading_toDigits (n : Nat) :
    Leading (Nat.toDigits 10 n) := by
  refine ⟨allDigits_toDigits n, Nat.toDigits_ne_nil, ?_⟩
  intro hZero
  by_cases hPositive : n = 0
  · rw [hPositive]
    rfl
  · exact absurd hZero (head?_toDigits_ne hPositive)

/- An integer of 64 bits is read from its digits. -/
theorem reads_integer
    (negative : Bool)
    {n : Nat}
    (hFits : n < significandLimit) :
    Reads negative (Nat.toDigits 10 n)
      (signedInteger negative n) := by
  intro bytes rest hEnds
  have hValue : valueFrom (Nat.toDigits 10 n) 0 = n :=
    Nat.ofDigitChars_ten_toDigits
  rw [readUnsigned_digits (leading_toDigits n) hEnds.not_digit
    (by rwa [hValue]), hValue]
  cases rest with
  | nil => rfl
  | cons c rest =>
      rcases hEnds c rfl with rfl | rfl | rfl <;> rfl

/- A number with a fraction is scaled down. -/
theorem reads_fraction
    (negative : Bool)
    {whole fraction : List Char}
    (hWhole : Leading whole)
    (hFraction : AllDigits fraction)
    (hSome : fraction ≠ [])
    (hFits :
      valueFrom (whole ++ fraction) 0 < significandLimit) :
    ∃ x, Reads negative (whole ++ '.' :: fraction)
      (.double x) := by
  have hNegative : -(fraction.length : Int) < 0 := by
    have hLength := List.length_pos_iff.mpr hSome
    omega
  rcases exists_scaleDouble?_of_neg
    (valueFrom (whole ++ fraction) 0) hNegative with ⟨x, hScale⟩
  refine ⟨if negative then x.neg else x,
    fun bytes rest hEnds => ?_⟩
  rw [valueFrom, Nat.ofDigitChars_append] at hFits hScale
  have hWholeFits :=
    Nat.lt_of_le_of_lt (le_valueFrom fraction _) hFits
  rw [List.append_assoc, List.cons_append,
    readUnsigned_digits hWhole rfl hWholeFits, readRest,
    readFraction_digits _ _ _ _ hFraction hSome
      hEnds.not_digit hFits,
    readTail_ends _ _ _ _ hEnds, endDouble, Int.zero_sub,
    hScale]
  simp only [signedDouble, List.length_append, List.length_cons]
  congr 2
  omega

/- The text after the digits of a number with an exponent. -/
theorem scientificDigits_singleton
    (first : Char)
    (exponent : Int) :
    Binary64.scientificDigits [first] exponent =
      [first] ++ exponentText exponent :=
  rfl

theorem scientificDigits_cons
    (first c : Char)
    (others : List Char)
    (exponent : Int) :
    Binary64.scientificDigits (first :: c :: others) exponent =
      [first] ++
        ('.' :: (c :: others) ++ exponentText exponent) :=
  rfl

/- A number with an exponent is scaled by it. -/
theorem reads_scientific
    (negative : Bool)
    {first : Char}
    {fraction : List Char}
    {exponent : Int}
    {x : Binary64}
    (hFirst : Leading [first])
    (hFraction : AllDigits fraction)
    (hFits :
      valueFrom (first :: fraction) 0 < significandLimit)
    (hAllowed : exponent.natAbs ≤ exponentLimit)
    (hScale :
      scaleDouble? (valueFrom (first :: fraction) 0)
        (exponent - fraction.length) = some x) :
    Reads negative
      (Binary64.scientificDigits (first :: fraction) exponent)
      (signedDouble negative x) := by
  intro bytes rest hEnds
  have hFirstFits : valueFrom [first] 0 < significandLimit :=
    Nat.lt_of_le_of_lt (le_valueFrom fraction _) hFits
  cases fraction with
  | nil =>
      rw [List.length_nil, Nat.cast_zero, Int.sub_zero] at hScale
      have hRead :
          readRest negative (valueFrom [first] 0) (bytes + 1)
              (exponentText exponent ++ rest) =
            readTail negative (valueFrom [first] 0) 0 (bytes + 1)
              (exponentText exponent ++ rest) :=
        rfl
      rw [scientificDigits_singleton, List.append_assoc,
        readUnsigned_digits hFirst rfl hFirstFits,
        List.length_singleton, hRead,
        readTail_exponent _ _ _ _ hAllowed hEnds,
        endDouble, Int.zero_add, hScale]
      simp only [List.length_append, List.length_singleton,
        Nat.add_assoc]
  | cons c others =>
      have hNotDigit :
          startsWithDigit (exponentText exponent ++ rest) =
            false :=
        rfl
      have hSum :
          (0 : Int) - (c :: others).length + exponent =
            exponent - (c :: others).length := by
        omega
      have hValue :
          valueFrom (c :: others) (valueFrom [first] 0) =
            valueFrom (first :: c :: others) 0 :=
        rfl
      rw [← hValue] at hFits hScale
      rw [scientificDigits_cons, List.append_assoc,
        readUnsigned_digits hFirst rfl hFirstFits,
        List.length_singleton, List.append_assoc,
        List.cons_append, readRest,
        readFraction_digits _ _ _ _ hFraction
          (List.cons_ne_nil c others) hNotDigit hFits,
        readTail_exponent _ _ _ _ hAllowed hEnds,
        endDouble, hSum, hScale]
      simp only [List.length_append, List.length_cons,
        List.length_nil]
      congr 2
      omega

section

variable (negative : Bool)
variable {n : Nat}

theorem valueFrom_toDigits (n : Nat) :
    valueFrom (Nat.toDigits 10 n) 0 = n :=
  Nat.ofDigitChars_ten_toDigits

/- Digits after the point, behind zeros. -/
theorem reads_behind
    (hFits : n < significandLimit)
    (count : Nat) :
    ∃ x, Reads negative
      (['0'] ++ '.' ::
        (Binary64.zeros count ++ Nat.toDigits 10 n))
      (.double x) := by
  have hZero : Leading ['0'] := leading_toDigits 0
  have hValue :
      valueFrom
          (['0'] ++ (Binary64.zeros count ++ Nat.toDigits 10 n))
          0 = n := by
    rw [valueFrom, Nat.ofDigitChars_append,
      Nat.ofDigitChars_append, Binary64.zeros,
      Nat.ofDigitChars_replicate_zero]
    exact valueFrom_toDigits n
  exact reads_fraction negative hZero
    ((allDigits_zeros count).append (allDigits_toDigits n))
    (List.append_ne_nil_of_right_ne_nil _ Nat.toDigits_ne_nil)
    (by rwa [hValue])

/- Digits before the point, with zeros behind. -/
theorem reads_before
    (hPositive : n ≠ 0)
    {count : Nat}
    (hLength : (Nat.toDigits 10 n).length + count ≤ 16) :
    ∃ x, Reads negative
      ((Nat.toDigits 10 n ++ Binary64.zeros count) ++
        '.' :: ['0'])
      (.double x) := by
  have hLeading := leading_toDigits n
  have hWhole :
      Leading (Nat.toDigits 10 n ++ Binary64.zeros count) := by
    refine ⟨hLeading.digits.append (allDigits_zeros count),
      List.append_ne_nil_of_left_ne_nil hLeading.nonempty _, ?_⟩
    rw [List.head?_append_of_ne_nil _ hLeading.nonempty]
    exact fun hZero =>
      absurd hZero (head?_toDigits_ne hPositive)
  have hValue :
      valueFrom
          (Nat.toDigits 10 n ++ Binary64.zeros count ++ ['0'])
          0 = 10 * (10 ^ count * n) := by
    rw [valueFrom, Nat.ofDigitChars_append,
      Nat.ofDigitChars_append, Binary64.zeros,
      Nat.ofDigitChars_replicate_zero,
      Nat.ofDigitChars_ten_toDigits]
    rfl
  have hBelow : n < 10 ^ (Nat.toDigits 10 n).length :=
    (Nat.length_toDigits_le_iff (by decide)
      (List.length_pos_iff.mpr hLeading.nonempty)).mp
        (Nat.le_refl _)
  have hScaled :
      10 ^ count * n <
        10 ^ count * 10 ^ (Nat.toDigits 10 n).length :=
    Nat.mul_lt_mul_of_pos_left hBelow (Nat.pow_pos (by decide))
  have hPlaces :
      10 ^ count * 10 ^ (Nat.toDigits 10 n).length ≤ 10 ^ 16 := by
    rw [← Nat.pow_add]
    exact Nat.pow_le_pow_right (by decide) (by omega)
  have hFits : 10 * (10 ^ count * n) < significandLimit := by
    unfold significandLimit
    omega
  exact reads_fraction negative hWhole (allDigits_zeros 1)
    (List.cons_ne_nil _ _) (hValue ▸ hFits)

/- Digits with the point among them. -/
theorem reads_among
    (hPositive : n ≠ 0)
    (hFits : n < significandLimit)
    {point : Nat}
    (hStart : point ≠ 0)
    (hEnd : point < (Nat.toDigits 10 n).length) :
    ∃ x, Reads negative
      ((Nat.toDigits 10 n).take point ++
        '.' :: (Nat.toDigits 10 n).drop point)
      (.double x) := by
  have hLeading := leading_toDigits n
  have hWhole : Leading ((Nat.toDigits 10 n).take point) := by
    refine ⟨fun c hMem =>
      hLeading.digits c (List.mem_of_mem_take hMem), ?_, ?_⟩
    · simp only [ne_eq, List.take_eq_nil_iff, not_or]
      exact ⟨hStart, hLeading.nonempty⟩
    · rw [List.head?_take, if_neg hStart]
      exact fun hZero =>
        absurd hZero (head?_toDigits_ne hPositive)
  refine reads_fraction negative hWhole
    (fun c hMem => hLeading.digits c (List.mem_of_mem_drop hMem))
    ?_ ?_
  · simp only [ne_eq, List.drop_eq_nil_iff, not_le]
    exact hEnd
  · rw [List.take_append_drop, valueFrom_toDigits]
    exact hFits

/- A positional number has a fraction and is scaled down. -/
theorem reads_positional
    (hPositive : n ≠ 0)
    (hFits : n < significandLimit)
    {point : Int}
    (hPoint : point ≤ 16) :
    ∃ x, Reads negative
      (Binary64.positionalDigits (Nat.toDigits 10 n) point true)
      (.double x) := by
  unfold Binary64.positionalDigits
  rcases Int.lt_or_le 0 point with hAfter | hBefore
  · rw [if_neg (by omega)]
    by_cases hLength : (Nat.toDigits 10 n).length ≤ point.toNat
    · rw [if_pos hLength, if_pos rfl]
      exact reads_before negative hPositive (by omega)
    · rw [if_neg hLength, List.append_assoc]
      exact reads_among negative hPositive hFits (by omega)
        (by omega)
  · rw [if_pos hBefore, List.append_assoc]
    exact reads_behind negative hFits _

end

------------------------------------------------------------
-- Integers and Doubles
------------------------------------------------------------

/- A number that is read starts with a digit. -/
theorem startsWithDigit_of_ok
    {negative : Bool}
    {bytes : Nat}
    {number : NumberRead}
    (hRead : readUnsigned negative bytes ds = .ok number) :
    startsWithDigit ds = true := by
  unfold readUnsigned at hRead
  split at hRead
  case isTrue hStart => exact hStart
  case isFalse => cases hRead

/- Without a minus, a number is read as it is. -/
theorem readNumber_of_digit
    (hStart : startsWithDigit ds = true)
    (bytes : Nat) :
    readNumber bytes ds = readUnsigned false bytes ds := by
  cases ds with
  | nil => rfl
  | cons c ds =>
      unfold readNumber
      split
      case h_1 hMinus =>
          cases hMinus
          cases hStart
      case h_2 => rfl

/- An integer of 64 bits, with or without a sign. -/
def FitsWord (n : Int) : Prop :=
  -0x8000000000000000 ≤ n ∧ n < 0x10000000000000000

/- An integer of 64 bits is read as it was written. -/
theorem readNumber_integer
    {n : Int}
    (hFits : FitsWord n)
    (bytes : Nat)
    (hEnds : Ends rest) :
    readNumber bytes ((toString n).toList ++ rest) =
      .ok ⟨.integer n, bytes + (toString n).toList.length,
        rest⟩ := by
  rcases hFits with ⟨hLow, hHigh⟩
  cases n with
  | ofNat m =>
      have hWord : m < significandLimit := by
        rw [Int.ofNat_eq_natCast] at hHigh
        unfold significandLimit
        omega
      have hRead := reads_integer false hWord bytes rest hEnds
      rw [toList_toString_ofNat,
        readNumber_of_digit (startsWithDigit_of_ok hRead), hRead]
      rfl
  | negSucc m =>
      have hSmall : ¬ (m + 1 = 0 ∨ 0x8000000000000000 < m + 1) := by
        omega
      have hWord : m + 1 < significandLimit := by
        unfold significandLimit
        omega
      rw [toList_toString_negSucc, List.cons_append, readNumber,
        reads_integer true hWord _ rest hEnds, signedInteger,
        if_neg (by decide), if_neg hSmall, List.length_cons]
      congr 2
      omega

/- What was scaled has an exponent that can be scaled. -/
theorem le_of_scaleDouble?
    {significand : Nat}
    {exponent : Int}
    {x : Binary64}
    (hPositive : significand ≠ 0)
    (hScale : scaleDouble? significand exponent = some x) :
    exponent ≤ 308 := by
  by_contra hLarge
  unfold scaleDouble? at hScale
  dsimp only at hScale
  rw [if_neg (by omega), if_pos (by omega), if_neg hPositive]
    at hScale
  cases hScale

/- A decimal written with an exponent is read as some double. -/
theorem reads_shortest
    (negative : Bool)
    {magnitude : Nat}
    {d : Decimal}
    {x : Binary64}
    (hNear : Binary64.Near magnitude d)
    (hScale :
      scaleDouble? d.significand d.exponent = some x) :
    Reads negative
      (Binary64.scientificDigits d.digits
        (d.digits.length + d.exponent - 1))
      (signedDouble negative x) := by
  have hLow := hNear.low
  have hHigh := le_of_scaleDouble? hNear.positive hScale
  have hLength : d.digits.length ≤ 19 := by
    refine (Nat.length_toDigits_le_iff (by decide)
      (by decide)).mpr ?_
    exact Nat.lt_of_le_of_lt hNear.short (by decide)
  have hLeading : Leading d.digits := leading_toDigits _
  have hValue : valueFrom d.digits 0 = d.significand :=
    valueFrom_toDigits _
  have hFits : d.significand < significandLimit :=
    Nat.lt_of_le_of_lt hNear.short (by decide)
  rw [← hValue] at hFits hScale
  cases hDigits : d.digits with
  | nil => exact absurd hDigits hLeading.nonempty
  | cons first fraction =>
      rw [hDigits] at hLeading hLength hFits hScale
      rcases List.forall_mem_cons.mp hLeading.digits with
        ⟨hFirst, hFraction⟩
      rw [List.length_cons] at hLength
      refine reads_scientific negative ⟨?_, ?_, ?_⟩ hFraction
        hFits ?_ ?_
      · exact List.forall_mem_singleton.mpr hFirst
      · exact List.cons_ne_nil _ _
      · exact fun hZero => congrArg (· :: []) (Option.some.inj hZero)
      · unfold exponentLimit
        rw [List.length_cons]
        omega
      · rw [← hScale, List.length_cons]
        congr 1
        omega

/- A magnitude is read as some double. -/
theorem reads_writeMagnitude
    {magnitude : Nat}
    (hValid : Binary64.Representable magnitude)
    (negative : Bool) :
    ∃ x, Reads negative
      (Binary64.writeMagnitude Binary64.document magnitude)
      (.double x) := by
  unfold Binary64.writeMagnitude
  by_cases hZero : magnitude = 0
  · rw [if_pos hZero]
    exact reads_fraction negative (leading_toDigits 0)
      (allDigits_zeros 1) (List.cons_ne_nil _ _) (by decide)
  · rw [if_neg hZero]
    rcases exists_scaleDouble?_shortest hValid hZero with
      ⟨x, hScale⟩
    have hNear := hValid.near_shortest hZero .even
    have hTie : Binary64.document.tie = .even := rfl
    rw [hTie]
    generalize Binary64.shortest .even magnitude = d
      at hScale hNear ⊢
    dsimp only
    split
    case isTrue hPositional =>
        have hPoint : (d.digits.length : Int) + d.exponent ≤ 16 := by
          unfold Binary64.Layout.positional at hPositional
          simp only [Binary64.document, Option.all_some,
            Bool.and_eq_true, decide_eq_true_eq] at hPositional
          omega
        exact reads_positional negative hNear.positive
          (Nat.lt_of_le_of_lt hNear.short (by decide)) hPoint
    case isFalse =>
        exact ⟨_, reads_shortest negative hNear hScale⟩

/- A finite double is read as some double. -/
theorem readNumber_double
    {x : Binary64}
    (hFinite : x.isFinite = true) :
    ∃ y, ∀ bytes rest, Ends rest →
      readNumber bytes
          ((x.write Binary64.document).toList ++ rest) =
        .ok ⟨.double y,
          bytes + (x.write Binary64.document).toList.length,
          rest⟩ := by
  cases x with
  | nan => cases hFinite
  | infinite negative => cases hFinite
  | finite negative magnitude hValid =>
      rcases reads_writeMagnitude hValid negative with
        ⟨y, hReads⟩
      refine ⟨y, fun bytes rest hEnds => ?_⟩
      rw [Binary64.write, String.toList_ofList]
      cases negative with
      | true =>
          rw [if_pos rfl, List.cons_append, List.nil_append,
            List.cons_append, readNumber,
            hReads _ rest hEnds, List.length_cons]
          congr 2
          omega
      | false =>
          have hRead := hReads bytes rest hEnds
          rw [if_neg Bool.false_ne_true, List.nil_append,
            readNumber_of_digit (startsWithDigit_of_ok hRead),
            hRead]

end Json

end TracePlayer
