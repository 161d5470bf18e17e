import TracePlayer.Proofs.Pane.Drawable
import TracePlayer.Proofs.Playback.Stepping
import TracePlayer.Proofs.Viewer.Drawing
import TracePlayer.Proofs.Viewer.KeyTimes

/-
  This file proves that the keys of a viewer lead to the same
  place however often it is drawn between them, and that the
  keys which move through the trace do as they say.

  Main declarations:
    * `Viewer.undrawn_undated_of_keysOf_eq`
    * `Viewer.Effect`, `Viewer.effect_of_press`
    * `Viewer.Sound`, `Viewer.Sound.run`, `findsDrawable`
    * `Viewer.MovesHonestly`, `Viewer.movesHonestly_of_sound`
    * `Viewer.keys_honest`
-/

namespace TracePlayer

namespace Viewer

variable {v w u : Viewer}

------------------------------------------------------------
-- Keys and Drawing
------------------------------------------------------------

/-
  An event that neither reads an answer nor lets time pass: a
  key is pressed, or the viewer is drawn.
-/
def Event.PressesOrDraws (event : Event) : Prop :=
  event.press?.isSome = true ∨ event.draws = true

/- Such an event settles the viewer or presses a key. -/
theorem handle_cases
    {event : Event}
    (hOnly : event.PressesOrDraws)
    (hHandle : v.handle event = .ok w) :
    (∃ width height, w = v.settle width height) ∨
      ∃ now key, v.press now key = .ok w := by
  cases event with
  | draw width height =>
      exact
        .inl ⟨width, height, (handle_draw_eq_ok_iff.mp hHandle).2⟩
  | press now key =>
      exact .inr ⟨now, key, mapError_eq_ok_iff.mp hHandle⟩
  | arrive | takeAnswers | advance =>
      rcases hOnly with hPress | hDraws
      · cases hPress
      · cases hDraws

/- Without drawing, only the keys are left of such events. -/
theorem filter_draws_eq
    {events : List Event}
    (hOnly : ∀ event ∈ events, event.PressesOrDraws) :
    (events.filter fun event => !event.draws) =
      (events.filterMap Event.press?).map fun (now, key) =>
        .press now key := by
  induction events with
  | nil => rfl
  | cons event rest ih =>
      rw [List.forall_mem_cons] at hOnly
      rcases hOnly with ⟨hEvent, hRest⟩
      cases event with
      | draw width height => exact ih hRest
      | press now key =>
          exact congrArg (Event.press now key :: ·) (ih hRest)
      | arrive | takeAnswers | advance =>
          rcases hEvent with hPress | hDraws
          · cases hPress
          · cases hDraws

/-
  Whenever a viewer is drawn and its keys are pressed, it ends
  the same, apart from what drawing changes and from the time
  of the next advance.
-/
theorem undrawn_undated_of_keysOf_eq
    {events others : List Event}
    (hEvents : ∀ event ∈ events, event.PressesOrDraws)
    (hOthers : ∀ event ∈ others, event.PressesOrDraws)
    (hKeys : keysOf events = keysOf others)
    (hFirst : v.run events = .ok w)
    (hSecond : v.run others = .ok u) :
    w.undrawn.undated = u.undrawn.undated := by
  have hUndrawn :=
    map_undrawn_run (v := v) rfl (findsDrawable_of_run hFirst)
  have hOtherUndrawn :=
    map_undrawn_run (v := v) rfl (findsDrawable_of_run hSecond)
  rw [hFirst, filter_draws_eq hEvents] at hUndrawn
  rw [hSecond, filter_draws_eq hOthers] at hOtherUndrawn
  rcases exists_of_map_eq_ok hUndrawn.symm with
    ⟨x, hPresses, hX⟩
  rcases exists_of_map_eq_ok hOtherUndrawn.symm with
    ⟨y, hOtherPresses, hY⟩
  have hUndated : x.undated = y.undated :=
    undated_of_presses hKeys rfl hPresses hOtherPresses
  calc
    w.undrawn.undated = x.undated.undrawn := by
      rw [hX]
      rfl
    _ = y.undated.undrawn := by rw [hUndated]
    _ = u.undrawn.undated := by
      rw [hY]
      rfl

end Viewer

------------------------------------------------------------
-- Effects of Keys
------------------------------------------------------------

/- The keys that ask the tracer again. -/
def Key.Restarts (key : Key) : Prop :=
  key = .char 'r' ∨ key = .char 'R'

namespace Viewer

variable {v w : Viewer}
variable {now : Nat}
variable {key : Key}

/-
  What a key does to the session: nothing, or one control; a
  control that moves the index shows the structures from their
  first line again. Only the keys for it begin a new request.
-/
inductive Effect
    (v : Viewer)
    (key : Key)
    (w : Viewer) : Prop where
| still
    (hSession : w.session = v.session)
| control
    (event : Session.Event)
    {control : Playback.Control}
    {moved : Bool}
    {p : Playback}
    (hControl : event.control? = some control)
    (hApply : v.session.playback.apply control = .ok (moved, p))
    (hSession : w.session = v.session.withPlayback p)
    (hScroll :
      p.index = v.session.playback.index ∨
        w.structuresScroll = 0)
| restart
    (hKey : key.Restarts)
    (hSession : w.session = v.session.load v.source)

/- A toggle keeps the index. -/
theorem index_of_toggle
    {p q : Playback}
    (hToggle : p.toggle now = .ok q) : q.index = p.index := by
  have hIndex :=
    congrArg Playback.index (Playback.undated_of_toggle hToggle)
  rw [Playback.toggled] at hIndex
  split at hIndex <;> exact hIndex

theorem effect_of_togglePlay
    (hToggle : v.togglePlay now = .ok w) : v.Effect key w := by
  rcases exists_of_map_eq_ok hToggle with
    ⟨session, hSession, rfl⟩
  rcases exists_of_map_eq_ok hSession with ⟨p, hPlayback, rfl⟩
  have hApply :
      v.session.playback.apply (.toggle now) =
        .ok (false, p) := by
    rw [Playback.apply, hPlayback]
    rfl
  exact .control (.toggle now) rfl hApply rfl
    (.inl (index_of_toggle hPlayback))

theorem effect_of_changeSpeed
    {steps : Int}
    (hChange : v.changeSpeed now steps = .ok w) :
    v.Effect key w := by
  unfold changeSpeed at hChange
  dsimp only at hChange
  split at hChange
  case h_1 session hSession =>
      rcases exists_of_map_eq_ok hSession with
        ⟨p, hPlayback, rfl⟩
      let speed := adjustSpeed v.session.playback.speed steps
      have hApply :
          v.session.playback.apply (.setSpeed speed now) =
            .ok (false, p) := by
        rw [Playback.apply, hPlayback]
        rfl
      have hIndex :=
        congrArg Playback.index
          (Playback.undated_of_setSpeed hPlayback)
      cases hChange
      exact .control (.setSpeed speed now) rfl hApply
        rfl (.inl hIndex)
  case h_2 =>
      cases hChange
      exact .still rfl
  case h_3 => cases hChange

theorem effect_of_press
    (hPress : v.press now key = .ok w) : v.Effect key w := by
  cases key with
  | char c =>
      unfold press pressChar at hPress
      dsimp only at hPress
      split at hPress
      · cases hPress
        exact .still rfl
      split at hPress
      · exact effect_of_togglePlay hPress
      split at hPress
      · exact effect_of_changeSpeed hPress
      split at hPress
      · exact effect_of_changeSpeed hPress
      split at hPress
      case isTrue hKey =>
          have hRestarts : (Key.char c).Restarts := by
            rcases hKey with rfl | rfl
            · exact .inl rfl
            · exact .inr rfl
          cases hPress
          unfold restart
          split
          · exact .still rfl
          · exact .restart hRestarts rfl
      case isFalse =>
          cases hPress
          exact .still rfl
  | left =>
      cases hPress
      unfold moveBack
      split
      · exact .still rfl
      · exact .control (.step (-1)) rfl rfl rfl
          (.inr rfl)
  | right =>
      cases hPress
      unfold moveForward
      split
      · exact .still rfl
      · exact .control (.step 1) rfl rfl rfl (.inr rfl)
  | up =>
      cases hPress
      unfold scrollUp
      split <;> exact .still rfl
  | down =>
      cases hPress
      unfold scrollDown
      split <;> exact .still rfl
  | home | backspace =>
      cases hPress
      exact .control (.seek 0) rfl rfl rfl (.inr rfl)
  | last | enter =>
      cases hPress
      exact .control .seekEnd rfl rfl rfl (.inr rfl)
  | tab | other =>
      cases hPress
      exact .still rfl

------------------------------------------------------------
-- Honest Keys
------------------------------------------------------------

/-
  A viewer whose session is coherent, with a trace whose steps
  can be counted in a machine word.
-/
structure Sound (v : Viewer) : Prop where
  coherent : v.session.Coherent
  length_le : v.session.trace.length ≤ wordMax

/- A key keeps a viewer sound. -/
theorem Sound.press
    (hSound : v.Sound)
    (hPress : v.press now key = .ok w) : w.Sound := by
  cases effect_of_press hPress with
  | still hSession =>
      constructor
      · rw [hSession]
        exact hSound.coherent
      · rw [hSession]
        exact hSound.length_le
  | control event hControl hApply hSession hScroll =>
      constructor
      · rw [hSession]
        exact hSound.coherent.control hControl hApply
      · rw [hSession]
        exact hSound.length_le
  | restart hKey hSession =>
      constructor
      · rw [hSession]
        exact Session.Coherent.load v.session v.source
      · rw [hSession]
        exact Nat.zero_le wordMax

/- Drawing keeps the trace. -/
theorem trace_settle
    (v : Viewer)
    (width height : Nat) :
    (v.settle width height).session.trace =
      v.session.trace := by
  have hSession :
      (v.settle width height).session = v.session.view.2 :=
    rfl
  rw [hSession, Session.view_snd, Session.observeTo_eq]

/- Drawing keeps a viewer sound. -/
theorem Sound.settle
    (hSound : v.Sound)
    (width height : Nat) : (v.settle width height).Sound := by
  constructor
  · exact hSound.coherent.view
  · rw [trace_settle]
    exact hSound.length_le

/- Keys and drawing keep a viewer sound. -/
theorem Sound.handle
    {event : Event}
    (hSound : v.Sound)
    (hOnly : event.PressesOrDraws)
    (hHandle : v.handle event = .ok w) : w.Sound := by
  rcases handle_cases hOnly hHandle with
    ⟨width, height, rfl⟩ | ⟨now, key, hPress⟩
  · exact hSound.settle width height
  · exact hSound.press hPress

/- They keep its trace, or clear it for a new request. -/
theorem trace_subset_of_handle
    {event : Event}
    (hOnly : event.PressesOrDraws)
    (hHandle : v.handle event = .ok w) :
    w.session.trace ⊆ v.session.trace := by
  rcases handle_cases hOnly hHandle with
    ⟨width, height, rfl⟩ | ⟨now, key, hPress⟩
  · rw [trace_settle]
    exact List.Subset.refl _
  · cases effect_of_press hPress with
    | still hSession =>
        rw [hSession]
        exact List.Subset.refl _
    | control event hControl hApply hSession hScroll =>
        rw [hSession]
        exact List.Subset.refl _
    | restart hKey hSession =>
        rw [hSession]
        exact List.nil_subset _

theorem Sound.run
    {events : List Event}
    (hSound : v.Sound)
    (hOnly : ∀ event ∈ events, event.PressesOrDraws)
    (hRun : v.run events = .ok w) : w.Sound :=
  run_preserves
    (fun _ _ event hMem hNext hHandle =>
      hNext.handle (hOnly event hMem) hHandle)
    hRun hSound

/-
  Whatever keys and drawing lead to, it can be drawn, if all
  frames of the trace fit.
-/
theorem Sound.findsDrawable
    {events : List Event}
    (hSound : v.Sound)
    (hFits : ∀ frame ∈ v.session.trace, frame.Fits)
    (hOnly : ∀ event ∈ events, event.PressesOrDraws) :
    v.FindsDrawable events := by
  refine
    findsDrawable_of_preserves
      (P := fun u =>
        u.Sound ∧ ∀ frame ∈ u.session.trace, frame.Fits)
      ?_ ?_ ⟨hSound, hFits⟩
  · rintro u t event hMem ⟨hNext, hNextFits⟩ hHandle
    have hKept :=
      trace_subset_of_handle (hOnly event hMem) hHandle
    exact
      ⟨hNext.handle (hOnly event hMem) hHandle,
        fun frame hFrame => hNextFits frame (hKept hFrame)⟩
  · rintro u ⟨hNext, hNextFits⟩
    exact hNext.coherent.drawable_view hNextFits

/- A viewer at another step, with its structures rewound. -/
def movedTo
    (v : Viewer)
    (index : Nat)
    (message : String) : Viewer :=
  { v with
    session :=
      v.session.withPlayback
        { v.session.playback with index := index }
    structuresScroll := 0
    message := message }

/- The last step is shown, or there is none at all. -/
def AtEnd (v : Viewer) : Prop :=
  v.session.playback.index + 1 = v.session.trace.length ∨
    v.session.trace = []

/- The first step is shown, or there is none at all. -/
def AtStart (v : Viewer) : Prop :=
  v.session.playback.index = 0 ∨ v.session.trace = []

/-
  The keys that move through the trace do as they say: one
  step on, one step back, to the last or to the first step. At
  an end, a key that leads past it changes nothing but what is
  said, which tells of that end. And whichever key moved the
  index, the structures are shown from their first line, if
  the tracer is not asked again.
-/
structure MovesHonestly (v : Viewer) : Prop where
  forward (now : Nat) :
    ¬ v.AtEnd →
      v.press now .right =
        .ok
          (v.movedTo (v.session.playback.index + 1)
            "Stepped forward")
  no_further (now : Nat) :
    v.AtEnd →
      v.press now .right =
        .ok { v with message := "Already at the last step" }
  back (now : Nat) :
    ¬ v.AtStart →
      v.press now .left =
        .ok
          (v.movedTo (v.session.playback.index - 1)
            "Stepped backward")
  no_further_back (now : Nat) :
    v.AtStart →
      v.press now .left =
        .ok { v with message := "Already at the first step" }
  to_last (now : Nat) (key : Key) :
    key = .enter ∨ key = .last →
      v.press now key =
        .ok
          (v.movedTo (v.session.trace.length - 1)
            "Jumped to end")
  to_first (now : Nat) (key : Key) :
    key = .backspace ∨ key = .home →
      v.press now key = .ok (v.movedTo 0 "Jumped to start")
  rewound (now : Nat) (key : Key) (w : Viewer) :
    v.press now key = .ok w →
      ¬ key.Restarts →
      w.session.playback.index ≠ v.session.playback.index →
      w.structuresScroll = 0

/- The keys stop where the trace of the session ends. -/
theorem Sound.isAtEnd_iff
    (hSound : v.Sound) :
    v.session.playback.isAtEnd = true ↔ v.AtEnd := by
  have hLength := hSound.coherent.length_eq
  have hIndex := hSound.coherent.sound.index_le
  unfold Playback.isAtEnd AtEnd
  unfold Playback.lastIndex at hIndex ⊢
  rw [decide_eq_true_iff, ← List.length_eq_zero_iff]
  omega

theorem Sound.isAtStart_iff
    (hSound : v.Sound) :
    v.session.playback.isAtStart = true ↔ v.AtStart := by
  have hLength := hSound.coherent.length_eq
  have hIndex := hSound.coherent.sound.index_le
  unfold Playback.isAtStart AtStart
  unfold Playback.lastIndex at hIndex
  rw [decide_eq_true_iff, ← List.length_eq_zero_iff]
  omega

/- The session of a sound viewer is steps away from another. -/
theorem Sound.step_eq
    (hSound : v.Sound)
    {delta : Int}
    {index : Nat}
    (hIndex : (index : Int) = v.session.playback.index + delta)
    (hLess : index < v.session.trace.length) :
    v.session.step delta =
      v.session.withPlayback
        { v.session.playback with index := index } := by
  have hLength := hSound.coherent.length_eq
  have hWords : v.session.playback.length ≤ wordMax :=
    hLength ▸ hSound.length_le
  have hClamped :
      Playback.clamped v.session.playback.length index =
        index := by
    unfold Playback.clamped
    omega
  rw [Session.step, Playback.step_eq hWords, ← hIndex, hClamped]

/- Moving forward leads to the next step. -/
theorem moveForward_of_inside
    (hSound : v.Sound)
    (hInside : ¬ v.AtEnd) :
    v.moveForward =
      v.movedTo (v.session.playback.index + 1)
        "Stepped forward" := by
  have hLength := hSound.coherent.length_eq
  have hIndex := hSound.coherent.sound.index_le
  have hAhead := mt hSound.isAtEnd_iff.mp hInside
  have hLess :
      v.session.playback.index + 1 <
        v.session.trace.length := by
    unfold Playback.lastIndex at hIndex
    unfold AtEnd at hInside
    rw [← List.length_eq_zero_iff] at hInside
    omega
  rw [moveForward, if_neg hAhead, hSound.step_eq rfl hLess]
  rfl

/- Moving back leads to the step before. -/
theorem moveBack_of_inside
    (hSound : v.Sound)
    (hInside : ¬ v.AtStart) :
    v.moveBack =
      v.movedTo (v.session.playback.index - 1)
        "Stepped backward" := by
  have hIndex := hSound.coherent.index_le
  have hBehind := mt hSound.isAtStart_iff.mp hInside
  unfold AtStart at hInside
  have hLess :
      v.session.playback.index - 1 <
        v.session.trace.length := by
    omega
  have hStep :
      ((v.session.playback.index - 1 : Nat) : Int) =
        v.session.playback.index + -1 := by
    omega
  rw [moveBack, if_neg hBehind, hSound.step_eq hStep hLess]
  rfl

/- Moving to the end leads to the last step. -/
theorem moveToEnd_eq
    (hSound : v.Sound) :
    v.moveToEnd =
      v.movedTo (v.session.trace.length - 1)
        "Jumped to end" := by
  have hLast :
      min wordMax v.session.playback.lastIndex =
        v.session.trace.length - 1 := by
    have hWords := hSound.length_le
    have hLength := hSound.coherent.length_eq
    unfold Playback.lastIndex
    omega
  rw [moveToEnd, Session.seekEnd, Session.seek, Playback.seek,
    hLast]
  rfl

/- Moving to the start leads to the first step. -/
theorem moveToStart_eq (v : Viewer) :
    v.moveToStart = v.movedTo 0 "Jumped to start" := by
  rw [moveToStart, Session.seek, Playback.seek, Nat.zero_min]
  rfl

/- The keys of a sound viewer do as they say. -/
theorem movesHonestly_of_sound
    (hSound : v.Sound) : v.MovesHonestly := by
  constructor
  case forward =>
      intro now hInside
      rw [press, moveForward_of_inside hSound hInside]
  case no_further =>
      intro now hEnd
      have hLast := hSound.isAtEnd_iff.mpr hEnd
      rw [press, moveForward, if_pos hLast]
      rfl
  case back =>
      intro now hInside
      rw [press, moveBack_of_inside hSound hInside]
  case no_further_back =>
      intro now hStart
      have hFirst := hSound.isAtStart_iff.mpr hStart
      rw [press, moveBack, if_pos hFirst]
      rfl
  case to_last =>
      rintro now key (rfl | rfl)
      · rw [press, moveToEnd_eq hSound]
      · rw [press, moveToEnd_eq hSound]
  case to_first =>
      rintro now key (rfl | rfl)
      · rw [press, moveToStart_eq]
      · rw [press, moveToStart_eq]
  case rewound =>
      intro now key w hPress hKey hMoved
      cases effect_of_press hPress with
      | still hSession =>
          rw [hSession] at hMoved
          exact absurd rfl hMoved
      | control event hControl hApply hSession hScroll =>
          rw [hSession] at hMoved
          rcases hScroll with hSame | hRewound
          · exact absurd hSame hMoved
          · exact hRewound
      | restart hRestarts hSession =>
          exact absurd hRestarts hKey

/-
  Drawing has no influence on a viewer: without it, all events
  have the same effect, apart from what it changes itself, as
  long as no view is met that cannot be drawn; and none is met
  when every frame fits. So keys in the same order lead to the
  same viewer, apart from that and from the time of the next
  advance, however often and between whichever keys it is
  drawn. Wherever keys and drawing lead, the keys do as they
  say.
-/
theorem keys_honest
    (hReachable : v.session.Reachable)
    (hWords : v.session.trace.length ≤ wordMax) :
    (∀ events : List Event,
      v.run events ≠ .error .undrawable →
        (v.run events).map undrawn =
          (v.run (events.filter fun event =>
            !event.draws)).map undrawn) ∧
    ((∀ frame ∈ v.session.trace, frame.Fits) →
      ∀ events : List Event,
        (∀ event ∈ events, event.PressesOrDraws) →
          v.run events ≠ .error .undrawable) ∧
    (∀ events others : List Event,
      (∀ event ∈ events, event.PressesOrDraws) →
      (∀ event ∈ others, event.PressesOrDraws) →
      keysOf events = keysOf others →
      ∀ w u,
        v.run events = .ok w →
        v.run others = .ok u →
          w.undrawn.undated = u.undrawn.undated) ∧
    ∀ events : List Event,
      (∀ event ∈ events, event.PressesOrDraws) →
      ∀ w, v.run events = .ok w → w.MovesHonestly := by
  have hSound : v.Sound := ⟨hReachable.coherent, hWords⟩
  refine ⟨?_, ?_, ?_, ?_⟩
  · intro events hRuns
    exact map_undrawn_run rfl (findsDrawable_iff.mpr hRuns)
  · intro hFits events hEvents
    exact findsDrawable_iff.mp (hSound.findsDrawable hFits hEvents)
  · intro events others hEvents hOthers hKeys w u hRun hOther
    exact undrawn_undated_of_keysOf_eq hEvents hOthers hKeys
      hRun hOther
  · intro events hEvents w hRun
    exact movesHonestly_of_sound (hSound.run hEvents hRun)

/-
  A trace of two frames that fit, drawn before and after the
  key that leads to its last step: the key does the same at
  another time and without drawing, and has no effect once
  more.
-/
theorem keys_honest_on_two_frames :
    let frame : Frame :=
      { Frame.empty with
        arrays := Named.ofList [("xs", [.bool true])]
        pointers := Named.ofList [("xs", [⟨"i", 0⟩])] }
    let loads : Tracer := fun _ => .ok ⟨[frame, frame], none⟩
    let v := Viewer.new (Session.new.loadNow loads "a").2 "a"
    v.session.Reachable ∧
      v.session.trace.length ≤ wordMax ∧
      (∀ frame ∈ v.session.trace, frame.Fits) ∧
      ∃ w u,
        v.run [.draw 80 24, .press 0 .right, .draw 80 24] =
          .ok w ∧
          v.run [.press second .right] = .ok u ∧
          w.undrawn.undated = u.undrawn.undated ∧
          w.session.playback.index = 1 ∧
          w.press 0 .right =
            .ok
              { w with message := "Already at the last step" } := by
  intro frame loads v
  have hReachable : v.session.Reachable :=
    ⟨[⟨loads, .loadNow "a"⟩], rfl⟩
  have hWords : v.session.trace.length ≤ wordMax := by
    change 2 ≤ wordMax
    decide
  have hFits : frame.Fits := by
    constructor
    case value_le =>
        intro name values hValues value hValue
        cases mem_of_lookup hValues with
        | head =>
            rw [List.mem_singleton.mp hValue]
            decide
        | tail _ hMem => cases hMem
    case label_le =>
        intro name index
        unfold Frame.labelText
        cases hLabels : frame.pointers.get? name with
        | none => exact Nat.zero_le _
        | some labels =>
            cases mem_of_lookup hLabels with
            | head =>
                by_cases hIndex : 0 = index
                · subst hIndex
                  decide
                · simp [hIndex]
            | tail _ hMem => cases hMem
  have hTrace : ∀ shown ∈ v.session.trace, shown.Fits := by
    intro shown hMem
    have hShown : shown ∈ [frame, frame] := hMem
    rw [List.mem_pair, or_self] at hShown
    exact hShown ▸ hFits
  rcases keys_honest hReachable hWords with
    ⟨_, hRuns, hSame, hHonest⟩
  have hDrawn :
      ∀ event ∈
          [Event.draw 80 24, .press 0 .right, .draw 80 24],
        event.PressesOrDraws := by
    simp [Event.PressesOrDraws, Event.press?, Event.draws]
  have hPressed :
      ∀ event ∈ [Event.press second .right],
        event.PressesOrDraws := by
    simp [Event.PressesOrDraws, Event.press?]
  let w := ((v.settle 80 24).moveForward).settle 80 24
  have hShown :=
    findsDrawable_iff.mpr (hRuns hTrace _ hDrawn)
  have hFirst :
      v.handle (.draw 80 24) = .ok (v.settle 80 24) :=
    handle_draw_eq_ok_iff.mpr ⟨hShown.1 rfl, rfl⟩
  have hKey :
      (v.settle 80 24).handle (.press 0 .right) =
        .ok (v.settle 80 24).moveForward :=
    rfl
  have hAgain := (hShown.2 _ hFirst).2 _ hKey
  have hLast :
      (v.settle 80 24).moveForward.handle (.draw 80 24) =
        .ok w :=
    handle_draw_eq_ok_iff.mpr ⟨hAgain.1 rfl, rfl⟩
  have hRun :
      v.run [.draw 80 24, .press 0 .right, .draw 80 24] =
        .ok w := by
    rw [run_cons hFirst, run_cons hKey, run_cons hLast, run]
  have hEnd : w.AtEnd := .inl rfl
  exact
    ⟨hReachable, hWords, hTrace, w, v.moveForward, hRun, rfl,
      hSame _ _ hDrawn hPressed rfl _ _ hRun rfl, rfl,
      (hHonest _ hDrawn w hRun).no_further 0 hEnd⟩

end Viewer

end TracePlayer
