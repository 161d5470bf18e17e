import TracePlayer.Proofs.Carry.Memory

/-
  This file proves that the ways to resolve a structure agree:
  the values of a sequence and the root of a tree are those
  of the structure that is resolved, which has the kind that
  was asked for. Once a frame was seen, what it has of a
  structure adds nothing to what is carried.

  Main declarations:
    * `Carry.resolve_eq`
    * `Carry.Reported`, `Carry.reported_ofOperations`
    * `Carry.WrapsValues`, `Carry.WrapsValues.resolve_eq`
    * `Carry.resolve_tree`
    * `Carry.isEmpty_resolve_iff`
    * `Carry.resolve_observe`
    * `Carry.resolvers_agree`
-/

namespace TracePlayer

namespace Carry

------------------------------------------------------------
-- Resolved Structures
------------------------------------------------------------

variable {carry : Carry}

/-
  What is resolved is the current state if it is reported,
  else the carried one, else the empty one.
-/
theorem resolve_eq
    (carry : Carry)
    (kind : Kind)
    (name : String)
    (current : Option Structure) :
    carry.resolve kind name current =
      ((current.filter (reports kind)).or
        (carry.get? kind name)).getD (Structure.empty kind) := by
  have hSame :
      (current.filter fun state =>
          state.kind = kind && !state.isEmpty) =
        current.filter (reports kind) :=
    rfl
  rw [resolve, hSame]
  cases current.filter (reports kind) <;> rfl

theorem resolveSequence_eq
    (carry : Carry)
    (kind : Kind)
    (name : String)
    (current : Option (List Json)) :
    carry.resolveSequence kind name current =
      ((current.filter fun values => !values.isEmpty).or
        ((carry.get? kind name).bind
          Structure.sequence?)).getD [] := by
  unfold resolveSequence
  cases current.filter fun values => !values.isEmpty <;> rfl

/-
  Whether every state that is carried is one of its kind and
  not empty.
-/
def Reported (carry : Carry) : Prop :=
  ∀ kind name state,
    carry.get? kind name = some state →
      reports kind state = true

/- Whatever was done, only reported states are carried. -/
theorem reported_ofOperations (operations : List Operation) :
    (ofOperations operations).Reported := by
  intro kind name state hState
  refine (Table.inStep_ofOperations operations).reported
    kind name state ?_
  rw [(Table.keeps_ofOperations operations).states_eq, hState]

------------------------------------------------------------
-- Sequences and Trees
------------------------------------------------------------

/- A carried state of a kind is a structure of that kind. -/
theorem Reported.kind_eq
    (hReported : carry.Reported)
    {kind : Kind}
    {name : String}
    {state : Structure}
    (hState : carry.get? kind name = some state) :
    state.kind = kind ∧ state.isEmpty = false := by
  simpa [reports] using hReported kind name state hState

/-
  Whether the structures of a kind are values that are
  wrapped, and are empty when there are none.
-/
structure WrapsValues
    (kind : Kind)
    (wrap : List Json → Structure) : Prop where
  kind_eq : ∀ values, (wrap values).kind = kind
  exists_eq :
    ∀ state : Structure,
      state.kind = kind → ∃ values, state = wrap values
  isEmpty_eq : ∀ values, (wrap values).isEmpty = values.isEmpty
  sequence?_eq :
    ∀ values, (wrap values).sequence? = some values
  empty_eq : Structure.empty kind = wrap []

theorem wrapsValues_array :
    WrapsValues .array Structure.array where
  kind_eq := fun _ => rfl
  exists_eq := by
    intro state hKind
    cases state with
    | array values => exact ⟨values, rfl⟩
    | dict | linkedList | tree => cases hKind
  isEmpty_eq := fun _ => rfl
  sequence?_eq := fun _ => rfl
  empty_eq := rfl

theorem wrapsValues_linkedList :
    WrapsValues .linkedList Structure.linkedList where
  kind_eq := fun _ => rfl
  exists_eq := by
    intro state hKind
    cases state with
    | linkedList values => exact ⟨values, rfl⟩
    | array | dict | tree => cases hKind
  isEmpty_eq := fun _ => rfl
  sequence?_eq := fun _ => rfl
  empty_eq := rfl

/- A sequence is resolved to its values, wrapped. -/
theorem WrapsValues.resolve_eq
    {kind : Kind}
    {wrap : List Json → Structure}
    (hWraps : WrapsValues kind wrap)
    (hReported : carry.Reported)
    (name : String)
    (current : Option (List Json)) :
    carry.resolve kind name (current.map wrap) =
      wrap (carry.resolveSequence kind name current) := by
  have hCurrent :
      (current.map wrap).filter (reports kind) =
        (current.filter fun values =>
          !values.isEmpty).map wrap := by
    rw [Option.filter_map]
    congr 2
    funext values
    simp [reports, hWraps.kind_eq, hWraps.isEmpty_eq]
  rw [Carry.resolve_eq, hCurrent, resolveSequence_eq]
  cases current.filter fun values => !values.isEmpty with
  | some values => rfl
  | none =>
      cases hState : carry.get? kind name with
      | none => exact hWraps.empty_eq
      | some state =>
          rcases hWraps.exists_eq state
            (hReported.kind_eq hState).1 with ⟨values, rfl⟩
          simp [hWraps.sequence?_eq]

/- A tree is resolved to its root, wrapped. -/
theorem resolve_tree
    (hReported : carry.Reported)
    (name : String)
    (current : Tree) :
    carry.resolve .tree name (some (.tree current)) =
      .tree (carry.resolveTree name current) := by
  have hReports :
      reports .tree (.tree current) = !current.isEmpty := by
    simp [reports, Structure.kind, Structure.isEmpty]
  rw [resolve_eq, resolveTree, Option.filter_some, hReports]
  cases hEmpty : current.isEmpty with
  | false => rfl
  | true =>
      cases hState : carry.get? .tree name with
      | none => rfl
      | some state =>
          have hKind := (hReported.kind_eq hState).1
          cases state with
          | tree root => rfl
          | array | dict | linkedList => cases hKind

/- An empty tree is resolved as one that is not there. -/
theorem resolve_tree_none
    (hReported : carry.Reported)
    (name : String) :
    carry.resolve .tree name none =
      .tree (carry.resolveTree name .empty) := by
  rw [← resolve_tree hReported, resolve_eq, resolve_eq]
  rfl

------------------------------------------------------------
-- Kinds and Emptiness
------------------------------------------------------------

/- What is resolved has the kind that was asked for. -/
theorem kind_resolve
    (hReported : carry.Reported)
    (kind : Kind)
    (name : String)
    (current : Option Structure) :
    (carry.resolve kind name current).kind = kind := by
  rw [resolve_eq]
  cases hCurrent : current.filter (reports kind) with
  | some state =>
      have hReports :=
        (Option.filter_eq_some_iff.mp hCurrent).2
      exact of_decide_eq_true
        (Bool.and_eq_true_iff.mp hReports).1
  | none =>
      cases hState : carry.get? kind name with
      | some state => exact (hReported.kind_eq hState).1
      | none => exact Structure.kind_empty kind

/-
  What is resolved is empty exactly when nothing is carried
  and the current state, if any, is empty or of another kind.
-/
theorem isEmpty_resolve_iff
    (hReported : carry.Reported)
    (kind : Kind)
    (name : String)
    (current : Option Structure) :
    (carry.resolve kind name current).isEmpty = true ↔
      carry.get? kind name = none ∧
        ∀ state, current = some state →
          state.isEmpty = true ∨ state.kind ≠ kind := by
  have hAbsent :
      current.filter (reports kind) = none ↔
        ∀ state, current = some state →
          state.isEmpty = true ∨ state.kind ≠ kind := by
    rw [Option.filter_eq_none_iff]
    refine forall_congr' fun state => imp_congr_right fun _ => ?_
    cases hEmpty : state.isEmpty <;> simp [reports, hEmpty]
  rw [resolve_eq, ← hAbsent]
  cases hCurrent : current.filter (reports kind) with
  | some state =>
      have hReports :=
        (Option.filter_eq_some_iff.mp hCurrent).2
      have hFull : state.isEmpty = false := by
        simpa using (Bool.and_eq_true_iff.mp hReports).2
      simp [hFull]
  | none =>
      cases hState : carry.get? kind name with
      | some state => simp [(hReported.kind_eq hState).2]
      | none => simp [Structure.isEmpty_empty]

------------------------------------------------------------
-- Seen Frames
------------------------------------------------------------

/-
  Right after a frame was seen, what it has of a structure
  is what is carried of it.
-/
theorem resolve_observe
    (carry : Carry)
    (frame : Frame)
    {kind : Kind}
    (hKind : kind ≠ .dict)
    (name : String) :
    (carry.observe frame).resolve kind name
        (frame.structure? kind name) =
      (carry.observe frame).resolve kind name none := by
  rw [resolve_eq, resolve_eq, get?_observe, if_neg hKind,
    Option.filter_none, Option.none_or, ← Option.or_assoc,
    Option.or_self]

------------------------------------------------------------
-- Agreement
------------------------------------------------------------

/-
  Whatever was done before, sequences and trees are resolved
  to the values and roots of the structures that are resolved
  of them. What is resolved has the kind that was asked for,
  and is empty only if there is nothing else to show. After a
  frame, resolving with or without it makes no difference,
  dicts apart.
-/
theorem resolvers_agree
    (operations : List Operation)
    (name : String) :
    let carry := ofOperations operations
    (∀ current,
      carry.resolve .array name (current.map .array) =
          .array (carry.resolveSequence .array name current) ∧
        carry.resolve .linkedList name
            (current.map .linkedList) =
          .linkedList
            (carry.resolveSequence .linkedList name current)) ∧
    (∀ current,
      carry.resolve .tree name (some (.tree current)) =
        .tree (carry.resolveTree name current)) ∧
    carry.resolve .tree name none =
      .tree (carry.resolveTree name .empty) ∧
    (∀ kind current,
      (carry.resolve kind name current).kind = kind ∧
        ((carry.resolve kind name current).isEmpty = true ↔
          carry.get? kind name = none ∧
            ∀ state, current = some state →
              state.isEmpty = true ∨ state.kind ≠ kind)) ∧
    (∀ frame kind, kind ≠ .dict →
      (carry.observe frame).resolve kind name
          (frame.structure? kind name) =
        (carry.observe frame).resolve kind name none) := by
  intro carry
  have hReported : carry.Reported :=
    reported_ofOperations operations
  refine
    ⟨fun current => ⟨?_, ?_⟩, resolve_tree hReported name,
      resolve_tree_none hReported name,
      fun kind current => ⟨?_, ?_⟩, ?_⟩
  · exact wrapsValues_array.resolve_eq hReported name current
  · exact wrapsValues_linkedList.resolve_eq hReported name current
  · exact kind_resolve hReported kind name current
  · exact isEmpty_resolve_iff hReported kind name current
  · intro frame kind hKind
    exact carry.resolve_observe frame hKind name

/- A list that a frame shows empty is resolved as carried. -/
theorem resolvers_agree_on_empty_list :
    let operations : List Operation :=
      [.update "x" (.linkedList [.null])]
    let frame : Frame :=
      { Frame.empty with
        linkedLists := Named.ofList [("x", [])] }
    let carry := ofOperations operations
    Kind.linkedList ≠ .dict ∧
      frame.structure? .linkedList "x" = some (.linkedList []) ∧
      (carry.observe frame).resolve .linkedList "x"
          (frame.structure? .linkedList "x") =
        (carry.observe frame).resolve .linkedList "x" none := by
  intro operations frame carry
  have hKind : Kind.linkedList ≠ .dict := nofun
  exact
    ⟨hKind, rfl,
      (resolvers_agree operations "x").2.2.2.2 frame
        .linkedList hKind⟩

end Carry

end TracePlayer
