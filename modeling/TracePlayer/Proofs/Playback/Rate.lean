import Mathlib.Data.List.Chain
import TracePlayer.Proofs.Playback.Deadline

/-
  This file proves how fast a playback advances while it is
  polled, however irregularly: two ticks that are due lie at
  least an interval apart, so that nothing is caught up, and
  no more than an interval and a gap between polls is lost
  with each of them.

  Main declarations:
    * `Poll`, `Poll.dueTimes`, `Poll.moves`
    * `Playback.pollAt`
    * `Playback.Ticking`, `Playback.Polled`
    * `Playback.Ticking.exists_polled`
    * `Playback.Polled.index_and_moves`
    * `Playback.Polled.spaced`, `Playback.Polled.length_mul_le`
    * `Playback.Polled.keeps_up`
    * `Playback.Reached.paced`
-/

namespace TracePlayer

------------------------------------------------------------
-- Polls
------------------------------------------------------------

/-
  A poll: its time, whether the deadline had come, and whether
  the index moved.
-/
structure Poll where
  time : Nat
  due : Bool
  moved : Bool
deriving DecidableEq, Repr

namespace Poll

/- The times of the polls that were due. -/
def dueTimes (polls : List Poll) : List Nat :=
  (polls.filter due).map time

/- The number of the polls at which the index moved. -/
def moves (polls : List Poll) : Nat :=
  polls.countP moved

end Poll

namespace Playback

open Poll

/- Tick at times, one after the other. -/
def pollAt
    (p : Playback) :
    List Nat → Except PlaybackError (List Poll × Playback)
| [] => .ok ([], p)
| now :: rest => do
    let (moved, q) ← p.tick now
    let (polls, r) ← q.pollAt rest
    .ok (⟨now, p.untilTick? now = some 0, moved⟩ :: polls, r)

------------------------------------------------------------
-- Ticks
------------------------------------------------------------

/-
  Whether a playback plays at an interval, with a deadline
  that was counted from a time.
-/
structure Ticking
    (p : Playback)
    (interval since : Nat) : Prop where
  playing : p.state = .playing
  interval_eq : p.interval? = some interval
  deadline_eq : p.deadline = some (since + interval)

/- The playback after a tick that was due. -/
def advanced
    (p : Playback)
    (due : Nat) : Playback :=
  { p with
    index := min (p.index + 1) p.lastIndex
    deadline := some due }

variable {p q : Playback}
variable {interval since last now : Nat}
variable {polls : List Poll}

namespace Ticking

/- A playback that is ready or paused is started. -/
theorem play
    (hIdle : p.state = .ready ∨ p.state = .paused)
    (hInterval : p.interval? = some interval)
    (hTime : now + interval < timeLimit) :
    ∃ playing,
      p.play now = .ok playing ∧
      playing.Ticking interval now ∧
      playing.index = p.index ∧
      playing.lastIndex = p.lastIndex := by
  have hNext : p.nextDeadline now = .ok (now + interval) :=
    nextDeadline_eq_ok_iff.mpr
      ⟨interval, hInterval, rfl, hTime⟩
  refine
    ⟨{ p with
        state := .playing
        deadline := some (now + interval) }, ?_, ?_, rfl, rfl⟩
  · rw [play_of_idle hIdle, hNext]
    rfl
  · exact ⟨rfl, hInterval, rfl⟩

/- A tick is due from the deadline on. -/
theorem untilTick?_iff
    (hTicking : p.Ticking interval since) :
    p.untilTick? now = some 0 ↔ since + interval ≤ now := by
  rw [untilTick?_eq_zero_iff, hTicking.deadline_eq]
  constructor
  · rintro ⟨due, ⟨⟩, hDue⟩
    exact hDue
  · intro hDue
    exact ⟨_, rfl, hDue⟩

/- A tick that is due counts the next deadline from its time. -/
theorem tick_due
    (hTicking : p.Ticking interval since)
    (hDue : since + interval ≤ now)
    (hTime : now + interval < timeLimit) :
    p.tick now =
        .ok
          (decide (min (p.index + 1) p.lastIndex ≠ p.index),
            p.advanced (now + interval)) ∧
      (p.advanced (now + interval)).Ticking interval now := by
  have hNext : p.nextDeadline now = .ok (now + interval) :=
    nextDeadline_eq_ok_iff.mpr
      ⟨interval, hTicking.interval_eq, rfl, hTime⟩
  constructor
  · unfold tick
    rw [hTicking.deadline_eq]
    dsimp only
    rw [if_neg (Nat.not_lt.mpr hDue), hNext]
    rfl
  · exact ⟨hTicking.playing, hTicking.interval_eq, rfl⟩

end Ticking

------------------------------------------------------------
-- Runs of Polls
------------------------------------------------------------

/-
  What polls do to a playback whose deadline was counted from
  one time, up to one whose deadline was counted from another.
-/
inductive Polled
    (interval : Nat) :
    Nat → Playback → List Poll → Nat → Playback → Prop where
| done {since : Nat} {p : Playback} :
    Polled interval since p [] since p
| early
    {since last now : Nat}
    {p q : Playback}
    {polls : List Poll}
    (hEarly : now < since + interval)
    (hRest : Polled interval since p polls last q) :
    Polled interval since p (⟨now, false, false⟩ :: polls) last q
| due
    {since last now : Nat}
    {p q : Playback}
    {polls : List Poll}
    (hDue : since + interval ≤ now)
    (hRest :
      Polled interval now (p.advanced (now + interval)) polls
        last q) :
    Polled interval since p
      (⟨now, true,
          decide (min (p.index + 1) p.lastIndex ≠ p.index)⟩ ::
        polls)
      last q

/- Polls never fail at times that leave room for an interval. -/
theorem Ticking.exists_polled
    {times : List Nat}
    (hTicking : p.Ticking interval since)
    (hTimes : ∀ time ∈ times, time + interval < timeLimit) :
    ∃ polls last q,
      p.pollAt times = .ok (polls, q) ∧
      polls.map Poll.time = times ∧
      Polled interval since p polls last q := by
  induction times generalizing p since with
  | nil => exact ⟨[], since, p, rfl, rfl, .done⟩
  | cons now rest ih =>
      have hRest :
          ∀ time ∈ rest, time + interval < timeLimit :=
        fun time hMem =>
          hTimes time (List.mem_cons_of_mem _ hMem)
      by_cases hDue : since + interval ≤ now
      · have hNow := hTimes now List.mem_cons_self
        rcases hTicking.tick_due hDue hNow with
          ⟨hTick, hNext⟩
        rcases ih hNext hRest with
          ⟨polls, last, q, hPoll, hTime, hPolled⟩
        refine ⟨_, last, q, ?_, ?_, .due hDue hPolled⟩
        · have hLeft : p.untilTick? now = some 0 :=
            hTicking.untilTick?_iff.mpr hDue
          simp [pollAt, hTick, hPoll, hLeft, bind, Except.bind]
        · rw [List.map_cons, hTime]
      · have hLeft : p.untilTick? now ≠ some 0 :=
          mt hTicking.untilTick?_iff.mp hDue
        have hTick := tick_of_not_due hLeft
        rcases ih hTicking hRest with
          ⟨polls, last, q, hPoll, hTime, hPolled⟩
        refine
          ⟨_, last, q, ?_, ?_,
            .early (Nat.not_le.mp hDue) hPolled⟩
        · simp [pollAt, hTick, hPoll, hLeft, bind, Except.bind]
        · rw [List.map_cons, hTime]

namespace Polled

/- Polls do not end playing. -/
theorem state_eq
    (hPolled : Polled interval since p polls last q) :
    q.state = p.state := by
  induction hPolled with
  | done => rfl
  | early _ _ ih => exact ih
  | due _ _ ih => exact ih

/-
  Every tick that is due moves the index, until it is the last
  one.
-/
theorem index_and_moves
    (hPolled : Polled interval since p polls last q)
    (hIndex : p.index ≤ p.lastIndex) :
    q.index =
        min p.lastIndex (p.index + (dueTimes polls).length) ∧
      moves polls =
        min (dueTimes polls).length (p.lastIndex - p.index) := by
  induction hPolled with
  | done => simp [dueTimes, moves, hIndex]
  | early _ _ ih => exact ih hIndex
  | @due since last now p q polls _ _ ih =>
      have hNext :
          (p.advanced (now + interval)).index ≤
            (p.advanced (now + interval)).lastIndex :=
        Nat.min_le_right _ _
      rcases ih hNext with ⟨hLast, hMoves⟩
      have hLength :
          (p.advanced (now + interval)).lastIndex =
            p.lastIndex := rfl
      have hStep :
          (p.advanced (now + interval)).index =
            min (p.index + 1) p.lastIndex := rfl
      rw [hLength, hStep] at hLast hMoves
      have hCount (moved : Bool) :
          moves (⟨now, true, moved⟩ :: polls) =
            moves polls + if moved then 1 else 0 :=
        List.countP_cons
      have hTimes (moved : Bool) :
          (dueTimes (⟨now, true, moved⟩ :: polls)).length =
            (dueTimes polls).length + 1 :=
        rfl
      rw [hCount, hTimes, hLast, hMoves]
      constructor
      · omega
      · by_cases hEnd : min (p.index + 1) p.lastIndex = p.index
        · simp only [hEnd, ne_eq, not_true_eq_false,
            decide_false, Bool.false_eq_true, if_false]
          omega
        · simp only [hEnd, ne_eq, not_false_eq_true,
            decide_true, if_true]
          omega

/-
  Ticks that are due lie at least an interval apart, and so
  does the first from the time the deadline was counted from.
-/
theorem spaced
    (hPolled : Polled interval since p polls last q) :
    (since :: dueTimes polls).IsChain
      fun a b => a + interval ≤ b := by
  induction hPolled with
  | done => exact .singleton _
  | early _ _ ih => exact ih
  | due hDue _ ih => exact .cons_cons hDue ih

/- Every tick that is due takes at least an interval. -/
theorem length_mul_le
    (hPolled : Polled interval since p polls last q) :
    since + (dueTimes polls).length * interval ≤ last := by
  induction hPolled with
  | done => simp [dueTimes]
  | early _ _ ih => exact ih
  | due hDue _ ih =>
      simp only [dueTimes, List.filter_cons_of_pos,
        List.map_cons, List.length_cons, Nat.add_mul,
        Nat.one_mul] at ih ⊢
      omega

/- The last deadline is counted from no later than the last poll. -/
theorem last_le
    (hPolled : Polled interval since p polls last q)
    (hSince : since ≤ now)
    (hOrder :
      (now :: polls.map Poll.time).IsChain (· ≤ ·)) :
    last ≤ (polls.map Poll.time).getLastD now := by
  induction hPolled generalizing now with
  | done => exact hSince
  | early _ _ ih =>
      rw [List.map_cons, List.isChain_cons_cons] at hOrder
      rw [List.map_cons, List.getLastD_cons]
      exact ih (Nat.le_trans hSince hOrder.1) hOrder.2
  | due _ _ ih =>
      rw [List.map_cons, List.isChain_cons_cons] at hOrder
      rw [List.map_cons, List.getLastD_cons]
      exact ih (Nat.le_refl _) hOrder.2

/-
  With gaps between polls up to a bound, a tick that is due
  comes before an interval and a gap have passed, and so would
  the next one.
-/
theorem keeps_up
    {gap : Nat}
    (hPolled : Polled interval since p polls last q)
    (hInterval : 0 < interval)
    (hAhead : now < since + interval)
    (hGap :
      (now :: polls.map Poll.time).IsChain
        fun a b => b ≤ a + gap) :
    (polls.map Poll.time).getLastD now <
      since + ((dueTimes polls).length + 1) *
        (interval + gap) := by
  induction hPolled generalizing now with
  | done =>
      simp only [dueTimes, List.filter_nil, List.map_nil,
        List.length_nil, List.getLastD_nil]
      omega
  | early hEarly _ ih =>
      rw [List.map_cons, List.isChain_cons_cons] at hGap
      rw [List.map_cons, List.getLastD_cons]
      exact ih hEarly hGap.2
  | due _ _ ih =>
      rw [List.map_cons, List.isChain_cons_cons] at hGap
      rw [List.map_cons, List.getLastD_cons]
      rcases hGap with ⟨hNext, hGap⟩
      have hRest := ih (Nat.lt_add_of_pos_right hInterval) hGap
      simp only [dueTimes, List.filter_cons_of_pos,
        List.map_cons, List.length_cons, Nat.add_mul,
        Nat.one_mul] at hNext hRest ⊢
      omega

end Polled

------------------------------------------------------------
-- Pace
------------------------------------------------------------

theorem pairwise_of_spaced
    {times : List Nat}
    (hSpaced :
      times.IsChain fun a b => a + interval ≤ b) :
    times.Pairwise fun a b => a + interval ≤ b := by
  have hTrans :
      IsTrans Nat fun a b => a + interval ≤ b :=
    ⟨fun a b c hLeft hRight => by omega⟩
  exact List.isChain_iff_pairwise.mp hSpaced

/-
  A playback that is started and then only polled, at times
  that do not decrease, plays on to the end. Every tick that
  is due moves it, until it shows the last frame; such ticks
  lie at least an interval apart, however late a poll is, and
  with polls that are not too far apart not much more.
-/
theorem Reached.paced
    {armed : Option Nat}
    {start : Nat}
    {times : List Nat}
    (hReached : Reached p armed)
    (hIdle : p.state = .ready ∨ p.state = .paused)
    (hInterval : p.interval? = some interval)
    (hPositive : 0 < interval)
    (hOrder : (start :: times).IsChain (· ≤ ·))
    (hTimes :
      ∀ time ∈ start :: times, time + interval < timeLimit) :
    ∃ playing polls q,
      p.play start = .ok playing ∧
      playing.pollAt times = .ok (polls, q) ∧
      polls.map Poll.time = times ∧
      q.state = .playing ∧
      let ticks := (dueTimes polls).length
      let elapsed := times.getLastD start - start
      q.index = min p.lastIndex (p.index + ticks) ∧
      moves polls = min ticks (p.lastIndex - p.index) ∧
      (start :: dueTimes polls).Pairwise
        (fun a b => a + interval ≤ b) ∧
      ticks * interval ≤ elapsed ∧
      ∀ gap,
        (start :: times).IsChain (fun a b => b ≤ a + gap) →
        elapsed < (ticks + 1) * (interval + gap) := by
  have hIndex : p.index ≤ p.lastIndex :=
    hReached.timely.sound.index_le
  have hStart := hTimes start List.mem_cons_self
  rcases Ticking.play hIdle hInterval hStart with
    ⟨playing, hPlay, hTicking, hSame, hLength⟩
  have hPollTimes :
      ∀ time ∈ times, time + interval < timeLimit :=
    fun time hMem => hTimes time (List.mem_cons_of_mem _ hMem)
  rcases hTicking.exists_polled hPollTimes with
    ⟨polls, last, q, hPoll, rfl, hPolled⟩
  rw [← hSame, ← hLength] at hIndex
  rcases hPolled.index_and_moves hIndex with ⟨hEnd, hMoves⟩
  have hBelow := hPolled.length_mul_le
  have hLast := hPolled.last_le (Nat.le_refl start) hOrder
  rw [hSame, hLength] at hEnd hMoves
  refine
    ⟨playing, polls, q, hPlay, hPoll, rfl, ?_, hEnd, hMoves,
      pairwise_of_spaced hPolled.spaced, ?_, ?_⟩
  · rw [hPolled.state_eq, hTicking.playing]
  · omega
  · intro gap hGap
    have hAhead : start < start + interval :=
      Nat.lt_add_of_pos_right hPositive
    have hAbove := hPolled.keeps_up hPositive hAhead hGap
    omega

/-
  Three frames at one a second, polled early, late, and again
  after the last frame: with polls at most 2.5 seconds apart,
  6 seconds are less than as many times 3.5 seconds as there
  are due ticks, and one more.
-/
theorem paced_of_late_polls :
    let p := new.load 3
    let times :=
      [900000000, 2500000000, 3400000000, 3500000000,
        6000000000]
    Reached p none ∧ p.interval? = some second ∧
    ∃ playing polls q,
      p.play 0 = .ok playing ∧
      playing.pollAt times = .ok (polls, q) ∧
      q.state = .playing ∧
      q.index = min 2 (0 + (dueTimes polls).length) ∧
      moves polls = min (dueTimes polls).length (2 - 0) ∧
      6000000000 <
        ((dueTimes polls).length + 1) *
          (second + 2500000000) := by
  intro p times
  have hWords : (Control.load 3).InWords := by
    change 3 ≤ wordMax
    decide
  have hReached : Reached p none :=
    Reached.new.next hWords rfl
  have hInterval : p.interval? = some second := by
    decide +kernel
  have hOrder : (0 :: times).IsChain (· ≤ ·) := by
    decide
  have hGap :
      (0 :: times).IsChain fun a b => b ≤ a + 2500000000 := by
    decide
  have hTimes :
      ∀ time ∈ 0 :: times, time + second < timeLimit := by
    decide
  rcases hReached.paced (Or.inl rfl) hInterval (by decide)
      hOrder hTimes with
    ⟨playing, polls, q, hPlay, hPoll, _, hState, hIndex,
      hMoves, _, _, hPace⟩
  exact
    ⟨hReached, hInterval, playing, polls, q, hPlay, hPoll,
      hState, hIndex, hMoves, hPace 2500000000 hGap⟩

end Playback

end TracePlayer
