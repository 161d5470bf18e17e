import TracePlayer.Proofs.Playback.Deadline
import TracePlayer.Session

/-
  This file proves where a step leads: to the sum of the index
  and the distance, or to the end of the trace that is nearest
  to it. In machine words this takes no sum or difference that
  is too large or too small for a word.

  Main declarations:
    * `Playback.clamped`, `Playback.step_eq`
    * `Playback.step_step`, `Playback.index_step_mono`
    * `Session.step_seekEnd`
    * `Words.distance`, `above`, `below`, `smaller`
    * `Words.stepped`, `Words.toNat_stepped`
    * `Playback.Reached.steps_exactly`
-/

namespace TracePlayer

namespace Playback

variable {p q : Playback}

------------------------------------------------------------
-- Steps
------------------------------------------------------------

/- The index of a trace that is nearest to a number. -/
def clamped (length : Nat) (target : Int) : Nat :=
  min target.toNat (max length 1 - 1)

theorem lastIndex_eq (p : Playback) :
    p.lastIndex = max p.length 1 - 1 := by
  unfold lastIndex
  omega

/-
  A step changes nothing but the index. A sum that stops at
  the greatest word is past the end of every trace.
-/
theorem step_eq
    (hLength : p.length ≤ wordMax)
    (delta : Int) :
    p.step delta =
      { p with index := clamped p.length (p.index + delta) } := by
  have hLast := p.lastIndex_eq
  have hIndex :
      min
          (if delta < 0 then p.index - delta.natAbs
            else saturatingAdd p.index delta.natAbs)
          p.lastIndex =
        clamped p.length (p.index + delta) := by
    unfold clamped saturatingAdd
    split <;> omega
  rw [step, seek, hIndex]

/- Two steps the same way are one step of their sum. -/
theorem step_step
    {a b : Int}
    (hLength : p.length ≤ wordMax)
    (hIndex : p.index ≤ p.lastIndex)
    (hSign : 0 ≤ a ∧ 0 ≤ b ∨ a ≤ 0 ∧ b ≤ 0) :
    (p.step a).step b = p.step (a + b) := by
  have hLast := p.lastIndex_eq
  let moved : Playback :=
    { p with index := clamped p.length (p.index + a) }
  have hMoved : moved.length ≤ wordMax := hLength
  have hTwice :
      clamped p.length
          (clamped p.length (p.index + a) + b) =
        clamped p.length (p.index + (a + b)) := by
    unfold clamped
    omega
  calc
    (p.step a).step b = moved.step b := by
      rw [step_eq hLength a]
    _ = { p with
          index :=
            clamped p.length
              (clamped p.length (p.index + a) + b) } :=
      step_eq hMoved b
    _ = p.step (a + b) := by
      rw [hTwice, step_eq hLength (a + b)]

/- A step further, or from further on, does not lead back. -/
theorem index_step_mono
    {a b : Int}
    (hLength : p.length ≤ wordMax)
    (hSame : q.length = p.length)
    (hIndex : p.index ≤ q.index)
    (hDelta : a ≤ b) :
    (p.step a).index ≤ (q.step b).index := by
  rw [step_eq hLength, step_eq (hSame ▸ hLength), hSame]
  dsimp only [clamped]
  omega

end Playback

/- So many steps back from the end, as far as the start. -/
theorem Session.step_seekEnd
    {s : Session}
    (hLength : s.playback.length ≤ wordMax)
    (back : Nat) :
    s.seekEnd.step (-back) =
      s.withPlayback
        { s.playback with
          index := s.playback.length - 1 - back } := by
  have hEnd :
      s.seekEnd.playback =
        { s.playback with index := s.playback.length - 1 } := by
    have hIndex : min wordMax s.playback.lastIndex =
        s.playback.length - 1 := by
      unfold Playback.lastIndex
      omega
    rw [← hIndex]
    rfl
  have hLong : s.seekEnd.playback.length ≤ wordMax := hLength
  have hBack :
      Playback.clamped s.playback.length
          ((s.playback.length - 1 : Nat) + -(back : Int)) =
        s.playback.length - 1 - back := by
    unfold Playback.clamped
    omega
  rw [Session.step, Playback.step_eq hLong, hEnd]
  dsimp only
  rw [hBack]
  rfl

------------------------------------------------------------
-- Machine Words
------------------------------------------------------------

namespace Words

/-
  The size of a word with a sign. The least one is its own
  negative, which is its size when read without a sign.
-/
def distance (delta : Int64) : UInt64 :=
  if delta < 0 then -delta.toUInt64 else delta.toUInt64

/- The sum, or the greatest word if the sum is smaller. -/
def above (index distance : UInt64) : UInt64 :=
  if index + distance < index then 0xFFFFFFFFFFFFFFFF
  else index + distance

/- The difference, or zero if there is none. -/
def below (index distance : UInt64) : UInt64 :=
  if index < distance then 0 else index - distance

def smaller (a b : UInt64) : UInt64 :=
  if a < b then a else b

/- The index after a step, all in words. -/
def stepped
    (length index : UInt64)
    (delta : Int64) : UInt64 :=
  smaller
    (if delta < 0 then below index (distance delta)
      else above index (distance delta))
    (below length 1)

/- A word is below zero when its number is. -/
theorem neg_iff (delta : Int64) :
    delta < 0 ↔ delta.toInt < 0 :=
  Int64.lt_iff_toInt_lt

/- The size of a word is that of its number. -/
theorem toNat_distance (delta : Int64) :
    (distance delta).toNat = delta.toInt.natAbs := by
  have hInt : delta.toInt = _ :=
    BitVec.toInt_eq_toNat_cond delta.toBitVec
  have hWord : delta.toBitVec.toNat = delta.toUInt64.toNat := rfl
  have hLess := delta.toUInt64.toNat_lt
  have hSize : UInt64.size = 0x10000000000000000 := rfl
  rw [hWord] at hInt
  unfold distance
  split
  case isTrue hNegative =>
      have hBelow := (neg_iff delta).mp hNegative
      rw [UInt64.toNat_neg, hSize]
      split at hInt <;> omega
  case isFalse hOther =>
      have hAbove := mt (neg_iff delta).mpr hOther
      split at hInt <;> omega

theorem toNat_above (a b : UInt64) :
    (above a b).toNat = saturatingAdd a.toNat b.toNat := by
  have hA := a.toNat_lt
  have hB := b.toNat_lt
  have hSum := UInt64.toNat_add a b
  unfold above saturatingAdd wordMax
  split
  case isTrue hWrapped =>
      rw [UInt64.lt_iff_toNat_lt] at hWrapped
      change 0xFFFFFFFFFFFFFFFF = _
      omega
  case isFalse hFits =>
      rw [UInt64.lt_iff_toNat_lt] at hFits
      omega

theorem toNat_below (a b : UInt64) :
    (below a b).toNat = a.toNat - b.toNat := by
  unfold below
  split
  case isTrue hLess =>
      rw [UInt64.lt_iff_toNat_lt] at hLess
      change 0 = _
      omega
  case isFalse hLe =>
      rw [UInt64.lt_iff_toNat_lt] at hLe
      exact UInt64.toNat_sub_of_le a b (by
        rw [UInt64.le_iff_toNat_le]
        omega)

theorem toNat_smaller (a b : UInt64) :
    (smaller a b).toNat = min a.toNat b.toNat := by
  simp only [smaller, UInt64.lt_iff_toNat_lt]
  split <;> omega

/- The words lead to the index of the step. -/
theorem toNat_stepped
    {p : Playback}
    {length index : UInt64}
    (hLength : length.toNat = p.length)
    (hIndex : index.toNat = p.index)
    (delta : Int64) :
    (stepped length index delta).toNat =
      (p.step delta.toInt).index := by
  have hLast : (below length 1).toNat = p.lastIndex := by
    rw [toNat_below, hLength]
    rfl
  have hTarget :
      (if delta < 0 then below index (distance delta)
          else above index (distance delta)).toNat =
        if delta.toInt < 0 then
          p.index - delta.toInt.natAbs
        else
          saturatingAdd p.index delta.toInt.natAbs := by
    simp only [neg_iff]
    split
    · rw [toNat_below, toNat_distance, hIndex]
    · rw [toNat_above, toNat_distance, hIndex]
  rw [stepped, toNat_smaller, hTarget, hLast]
  rfl

end Words

------------------------------------------------------------
-- Every Playback
------------------------------------------------------------

namespace Playback

/-
  Wherever controls led a playback, a step leads to the index
  that is nearest to the sum, and so it does in machine words;
  it changes nothing else. Steps the same way add up, steps
  are monotone in the index and in the distance, and from the
  end they lead so many frames back, at most to the start.
-/
theorem Reached.steps_exactly
    {p : Playback}
    {last : Option Nat}
    (hReached : Reached p last) :
    (∀ delta : Int,
      p.step delta =
        { p with
          index := clamped p.length (p.index + delta) }) ∧
    (∀ delta : Int64,
      (Words.stepped (.ofNat p.length) (.ofNat p.index)
          delta).toNat =
        (p.step delta.toInt).index) ∧
    (∀ a b : Int,
      0 ≤ a ∧ 0 ≤ b ∨ a ≤ 0 ∧ b ≤ 0 →
        (p.step a).step b = p.step (a + b)) ∧
    (∀ q : Playback,
      q.length = p.length →
      p.index ≤ q.index →
        ∀ a b : Int,
          a ≤ b → (p.step a).index ≤ (q.step b).index) ∧
    ∀ s : Session,
      s.playback = p →
        ∀ back : Nat,
          s.seekEnd.step (-back) =
            s.withPlayback
              { p with index := p.length - 1 - back } := by
  have hTimely := hReached.timely
  have hLength := hTimely.length_le
  have hNext := hTimely.next_le
  refine ⟨step_eq hLength, ?_, ?_, ?_, ?_⟩
  · intro delta
    have hWord :
        ∀ n ≤ wordMax, (UInt64.ofNat n).toNat = n := by
      intro n hN
      apply UInt64.toNat_ofNat_of_lt'
      exact Nat.lt_of_le_of_lt hN (by decide)
    exact Words.toNat_stepped (hWord _ hLength)
      (hWord _ (Nat.le_of_succ_le hNext)) delta
  · intro a b hSign
    exact step_step hLength hTimely.sound.index_le hSign
  · intro q hSame hIndex a b hDelta
    exact index_step_mono hLength hSame hIndex hDelta
  · rintro s rfl back
    exact Session.step_seekEnd hLength back

/-
  From the second of three frames, the longest steps lead to
  the start and to the end.
-/
theorem steps_exactly_at_extremes :
    let p := (Playback.new.load 3).seek 1
    Reached p none ∧
      p.step (-0x8000000000000000) = { p with index := 0 } ∧
      p.step 0x7FFFFFFFFFFFFFFF = { p with index := 2 } ∧
      (Words.stepped 3 1 Int64.minValue).toNat =
        (p.step (-0x8000000000000000)).index ∧
      ((p.step 1).step 0x7FFFFFFFFFFFFFFE).index =
        (p.step 0x7FFFFFFFFFFFFFFF).index := by
  intro p
  have hLoad : (Control.load 3).InWords := by
    change 3 ≤ wordMax
    decide
  have hSeek : (Control.seek 1).InWords := by
    change 1 ≤ wordMax
    decide
  have hReached : Reached p none :=
    (Reached.new.next hLoad rfl).next hSeek rfl
  rcases hReached.steps_exactly with
    ⟨hExact, hWords, hSum, _, _⟩
  have hBoth := hSum 1 0x7FFFFFFFFFFFFFFE (.inl (by decide))
  exact
    ⟨hReached, hExact (-0x8000000000000000),
      hExact 0x7FFFFFFFFFFFFFFF, hWords Int64.minValue,
      congrArg index hBoth⟩

end Playback

end TracePlayer
