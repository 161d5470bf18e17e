import TracePlayer.Proofs.Carry.History
import TracePlayer.Proofs.Carry.Table

/-
  This file proves what is remembered of a structure, whatever
  was done before: the last of its states that was not empty,
  of those since everything was last forgotten. Until then no
  name is lost or moved, and a frame that is seen twice in a
  row is remembered as if it were seen once.

  Main declarations:
    * `Carry.Operation.states`, `Carry.passed`
    * `Carry.ofOperations_eq_updateAll`
    * `Carry.Remembers`
    * `Carry.keys_prefix_run`
    * `Carry.mem_carried_iff`
    * `Carry.observe_observe`
    * `Carry.memory_ofOperations`
-/

namespace TracePlayer

namespace Carry

------------------------------------------------------------
-- States Since Everything Was Forgotten
------------------------------------------------------------

/- The states that an operation passes on. -/
def Operation.states :
    Operation → List (String × Structure)
| update name state => [(name, state)]
| observe frame => carried frame
| clear => []

/- The operations after the last one that forgets everything. -/
def sinceClear (operations : List Operation) : List Operation :=
  (operations.reverse.takeWhile fun operation =>
    operation ≠ .clear).reverse

/- The states that were passed on since then, in order. -/
def passed
    (operations : List Operation) : List (String × Structure) :=
  (sinceClear operations).flatMap Operation.states

theorem passed_concat_clear (operations : List Operation) :
    passed (operations ++ [.clear]) = [] := by
  simp [passed, sinceClear]

theorem passed_concat
    (operations : List Operation)
    {operation : Operation}
    (hKeeps : operation ≠ .clear) :
    passed (operations ++ [operation]) =
      passed operations ++ operation.states := by
  simp [passed, sinceClear, hKeeps]

theorem updateAll_append
    (carry : Carry)
    (states more : List (String × Structure)) :
    carry.updateAll (states ++ more) =
      (carry.updateAll states).updateAll more :=
  List.foldl_append

/- An operation that forgets nothing passes on its states. -/
theorem after_eq_updateAll
    (carry : Carry)
    {operation : Operation}
    (hKeeps : operation ≠ .clear) :
    carry.after operation = carry.updateAll operation.states := by
  cases operation with
  | update => rfl
  | observe => rfl
  | clear => exact absurd rfl hKeeps

/- Only the states since everything was forgotten matter. -/
theorem ofOperations_eq_updateAll (operations : List Operation) :
    ofOperations operations =
      empty.updateAll (passed operations) := by
  induction operations using List.reverseRecOn with
  | nil => rfl
  | append_singleton operations operation ih =>
      rw [ofOperations, List.foldl_concat, ← ofOperations]
      by_cases hClear : operation = .clear
      · rw [hClear, passed_concat_clear]
        rfl
      · rw [after_eq_updateAll _ hClear, ih,
          passed_concat operations hClear, updateAll_append]

/-
  Whether what is carried is a memory of states: for every
  kind and name the last one that was not empty, with the
  names in the order of the first.
-/
structure Remembers
    (carry : Carry)
    (states : List (String × Structure)) : Prop where
  get?_eq :
    ∀ kind name,
      carry.get? kind name =
        (reportsOf kind states).reverse.lookup name
  names_eq :
    ∀ kind,
      carry.names kind =
        ((reportsOf kind states).map Prod.fst).eraseDups

theorem remembers_ofOperations (operations : List Operation) :
    (ofOperations operations).Remembers (passed operations) := by
  rw [ofOperations_eq_updateAll]
  exact
    { get?_eq := fun kind name => get?_updateAll kind name _
      names_eq := fun kind => names_updateAll kind _ }

------------------------------------------------------------
-- Growing Order
------------------------------------------------------------

theorem keys_prefix_update
    (carry : Carry)
    (name : String)
    (state : Structure) :
    carry.keys <+: (carry.update name state).keys := by
  cases hEmpty : state.isEmpty with
  | true =>
      have hSame : carry.update name state = carry := by
        rw [update, if_pos hEmpty]
      exact hSame.symm ▸ List.prefix_rfl
  | false =>
      rw [keys_update carry name hEmpty]
      split
      case isTrue => exact List.prefix_rfl
      case isFalse => exact List.prefix_append _ _

theorem keys_prefix_updateAll
    (carry : Carry)
    (states : List (String × Structure)) :
    carry.keys <+: (carry.updateAll states).keys := by
  induction states generalizing carry with
  | nil => exact List.prefix_rfl
  | cons state rest ih =>
      exact (carry.keys_prefix_update state.1 state.2).trans
        (ih (carry.update state.1 state.2))

/- Until everything is forgotten, keys are only added at the end. -/
theorem keys_prefix_run
    (carry : Carry)
    {operations : List Operation}
    (hKeeps : .clear ∉ operations) :
    carry.keys <+: (operations.foldl after carry).keys := by
  induction operations generalizing carry with
  | nil => exact List.prefix_rfl
  | cons operation rest ih =>
      rw [List.mem_cons, not_or] at hKeeps
      rw [List.foldl_cons, carry.after_eq_updateAll
        (Ne.symm hKeeps.1)]
      exact (carry.keys_prefix_updateAll _).trans
        (ih _ hKeeps.2)

/- Names keep their order when keys are added at the end. -/
theorem names_prefix
    {carry later : Carry}
    (hKeys : carry.keys <+: later.keys)
    (kind : Kind) : carry.names kind <+: later.names kind :=
  (hKeys.filter _).map _

------------------------------------------------------------
-- Observed Frames
------------------------------------------------------------

/- The structures that a frame passes on are its own, but dicts. -/
theorem mem_carried_iff
    (frame : Frame)
    (name : String)
    (state : Structure) :
    (name, state) ∈ carried frame ↔
      state.kind ≠ .dict ∧
        frame.structure? state.kind name = some state := by
  simp only [carried, List.mem_append, Named.entries_map,
    List.mem_map, Prod.mk.injEq, Prod.exists,
    Named.mem_entries_iff]
  cases state <;> simp [Structure.kind, Frame.structure?]

/-
  What a frame reports of a part is its value, unless empty.
-/
theorem lookup_reportsOf_carried
    {α : Type}
    {part : Part α}
    {kind : Kind}
    {wrap : α → Structure}
    (hCarried : part.Carried kind wrap)
    (hEmpty :
      ∀ value, part.isEmpty value = (wrap value).isEmpty)
    (hKind : ∀ value, (wrap value).kind = kind)
    (frame : Frame)
    (name : String) :
    (reportsOf kind (carried frame)).reverse.lookup name =
      (((part.of frame).get? name).map wrap).filter
        (reports kind) := by
  rw [hCarried.reportsOf_carried, ← List.map_reverse,
    lookup_map_snd, lookup_reverse (Part.nodup_reported frame),
    Part.lookup_reported, Option.filter_map]
  congr 2
  funext value
  simp [reports, hEmpty, hKind]

/-
  After a frame, a structure is what the frame reports of it,
  or else what it was; a frame says nothing of carried dicts.
-/
theorem get?_observe
    (carry : Carry)
    (frame : Frame)
    (kind : Kind)
    (name : String) :
    (carry.observe frame).get? kind name =
      if kind = .dict then
        carry.get? kind name
      else
        ((frame.structure? kind name).filter
          (reports kind)).or (carry.get? kind name) := by
  rw [observe, get?_updateAll_or]
  cases kind with
  | array =>
      rw [lookup_reportsOf_carried Part.carried_arrays
        (fun _ => rfl) (fun _ => rfl)]
      rfl
  | dict => simp [Part.reportsOf_carried]
  | linkedList =>
      rw [lookup_reportsOf_carried Part.carried_linkedLists
        (fun _ => rfl) (fun _ => rfl)]
      rfl
  | tree =>
      rw [lookup_reportsOf_carried Part.carried_trees
        (fun _ => rfl) (fun _ => rfl)]
      rfl

/- A frame does not change the dicts that are carried. -/
theorem get?_dict_observe
    (carry : Carry)
    (frame : Frame)
    (name : String) :
    (carry.observe frame).get? .dict name =
      carry.get? .dict name := by
  rw [get?_observe, if_pos rfl]

/- A state that is there already changes nothing. -/
theorem update_of_get?
    {carry : Carry}
    {name : String}
    {state : Structure}
    (hThere : carry.get? state.kind name = some state) :
    carry.update name state = carry := by
  unfold update
  split
  case isTrue => rfl
  case isFalse => rw [put_of_lookup hThere]

theorem updateAll_of_unchanged
    {carry : Carry}
    {states : List (String × Structure)}
    (hUnchanged :
      ∀ state ∈ states, carry.update state.1 state.2 = carry) :
    carry.updateAll states = carry := by
  induction states with
  | nil => rfl
  | cons state rest ih =>
      rcases List.forall_mem_cons.mp hUnchanged with
        ⟨hState, hRest⟩
      rw [updateAll, List.foldl_cons, hState]
      exact ih hRest

/- A frame that is seen twice in a row is seen once. -/
theorem observe_observe
    (carry : Carry)
    (frame : Frame) :
    (carry.observe frame).observe frame =
      carry.observe frame := by
  refine updateAll_of_unchanged fun (name, state) hMem => ?_
  rcases (mem_carried_iff frame name state).mp hMem with
    ⟨hKind, hState⟩
  cases hEmpty : state.isEmpty with
  | true => rw [update, if_pos hEmpty]
  | false =>
      have hReports : reports state.kind state = true := by
        simp [reports, hEmpty]
      refine update_of_get? ?_
      rw [get?_observe, if_neg hKind, hState,
        Option.filter_some, if_pos hReports, Option.some_or]

------------------------------------------------------------
-- Memory
------------------------------------------------------------

/-
  What is carried after any operations is kept by a table and
  an order that are in step. It remembers of every structure
  the last state that was not empty, of those passed on since
  everything was forgotten. What comes next only adds keys at
  the end, unless it forgets everything, and no kind has a
  name twice. A frame changes no dicts, and seeing it twice
  in a row is seeing it once.
-/
theorem memory_ofOperations (operations : List Operation) :
    let carry := ofOperations operations
    let table := Table.ofOperations operations
    (table.InStep ∧ table.Keeps carry ∧
      carry.size = table.order.length) ∧
    carry.Remembers (passed operations) ∧
    (∀ later, .clear ∉ later →
      carry.keys <+: (ofOperations (operations ++ later)).keys ∧
      ∀ kind,
        carry.names kind <+:
          (ofOperations (operations ++ later)).names kind) ∧
    (∀ kind, (carry.names kind).Nodup) ∧
    (∀ frame,
      (∀ name,
        (carry.observe frame).get? .dict name =
          carry.get? .dict name) ∧
      (carry.observe frame).observe frame =
        carry.observe frame) := by
  intro carry table
  have hKeeps : table.Keeps carry :=
    Table.keeps_ofOperations operations
  have hSize : carry.size = table.order.length := by
    rw [hKeeps.order_eq, keys, List.length_map]
    rfl
  refine
    ⟨⟨Table.inStep_ofOperations operations, hKeeps, hSize⟩,
      remembers_ofOperations operations, ?_, ?_, ?_⟩
  · intro later hKeepsAll
    have hKeys :
        carry.keys <+:
          (ofOperations (operations ++ later)).keys := by
      rw [ofOperations, List.foldl_append]
      exact keys_prefix_run _ hKeepsAll
    exact ⟨hKeys, names_prefix hKeys⟩
  · exact (distinct_ofOperations operations).nodup_names
  · intro frame
    exact ⟨get?_dict_observe carry frame,
      observe_observe carry frame⟩

/- A list that is reported empty keeps its place and state. -/
theorem memory_after_empty_report :
    let operations : List Operation :=
      [.update "x" (.linkedList [.null]),
        .update "x" (.array [.null])]
    let later : List Operation :=
      [.update "x" (.linkedList []),
        .update "y" (.linkedList [.null])]
    let carry := ofOperations operations
    .clear ∉ later ∧
      carry.keys <+: (ofOperations (operations ++ later)).keys ∧
      carry.get? .linkedList "x" =
        (reportsOf .linkedList (passed operations)).reverse.lookup
          "x" := by
  intro operations later carry
  have hKeepsAll : .clear ∉ later := by
    decide
  have hMemory := memory_ofOperations operations
  exact
    ⟨hKeepsAll, (hMemory.2.2.1 later hKeepsAll).1,
      hMemory.2.1.get?_eq .linkedList "x"⟩

end Carry

end TracePlayer
