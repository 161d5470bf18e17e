import Mathlib.Data.List.Induction
import TracePlayer.Proofs.Carry.Contents
import TracePlayer.Proofs.Carry.Operations

/-
  This file keeps carried structures in two parts: a table in
  which a state is found by its kind and name, and the order
  in which kinds and names were first seen. It proves that
  the two parts stay in step, whatever is done to them, and
  that together they are what is carried.

  Main declarations:
    * `Carry.Table`, `Carry.Table.ofOperations`
    * `Carry.mem_keys_iff`
    * `Carry.Table.Keeps`, `Carry.Table.keeps_ofOperations`
    * `Carry.Table.InStep`
    * `Carry.Table.inStep_ofOperations`
-/

namespace TracePlayer

deriving instance Hashable for Kind

namespace Carry

------------------------------------------------------------
-- Tables
------------------------------------------------------------

/- The states by kind and name, and the order of the keys. -/
structure Table where
  states : Std.HashMap (Kind × String) Structure
  order : List (Kind × String)

namespace Table

def empty : Table :=
  ⟨∅, []⟩

/-
  Put the state of a structure into the table, unless it is
  empty; a key that is not there yet is the last in order.
-/
def update
    (table : Table)
    (name : String)
    (state : Structure) : Table :=
  if state.isEmpty then
    table
  else
    { states := table.states.insert (state.kind, name) state
      order :=
        if (state.kind, name) ∈ table.states then
          table.order
        else
          table.order ++ [(state.kind, name)] }

def updateAll
    (table : Table)
    (states : List (String × Structure)) : Table :=
  states.foldl
    (fun table state => table.update state.1 state.2) table

/- The table after an operation. -/
def after (table : Table) : Operation → Table
| .update name state => table.update name state
| .observe frame => table.updateAll (carried frame)
| .clear => empty

/- The table after operations, one after the other. -/
def ofOperations (operations : List Operation) : Table :=
  operations.foldl after empty

end Table

------------------------------------------------------------
-- Keys
------------------------------------------------------------

/- The keys are those under which a state is found. -/
theorem mem_keys_iff
    (carry : Carry)
    (kind : Kind)
    (name : String) :
    (kind, name) ∈ carry.keys ↔
      (carry.get? kind name).isSome := by
  rw [get?, ← Option.ne_none_iff_isSome, Ne,
    List.lookup_eq_none_iff]
  simp [keys, Prod.ext_iff]

/- The keys after an update, as the table orders them. -/
theorem keys_update
    (carry : Carry)
    (name : String)
    {state : Structure}
    (hFull : state.isEmpty = false) :
    (carry.update name state).keys =
      if (state.kind, name) ∈ carry.keys then
        carry.keys
      else
        carry.keys ++ [(state.kind, name)] := by
  rw [update, hFull, if_neg Bool.false_ne_true]
  split
  case isTrue hOld => exact keys_put_of_mem hOld state
  case isFalse hNew => exact keys_put_of_not_mem hNew state

------------------------------------------------------------
-- Tables of What Is Carried
------------------------------------------------------------

namespace Table

/-
  Whether a table keeps what is carried: its order is that of
  the keys, and it finds the same states.
-/
structure Keeps
    (table : Table)
    (carry : Carry) : Prop where
  order_eq : table.order = carry.keys
  states_eq :
    ∀ kind name,
      table.states[(kind, name)]? = carry.get? kind name

theorem keeps_empty : empty.Keeps Carry.empty where
  order_eq := rfl
  states_eq := fun _ _ => Std.HashMap.getElem?_empty

namespace Keeps

variable {table : Table}
variable {carry : Carry}

theorem mem_states_iff
    (hKeeps : table.Keeps carry)
    (kind : Kind)
    (name : String) :
    (kind, name) ∈ table.states ↔
      (kind, name) ∈ carry.keys := by
  rw [carry.mem_keys_iff, ← hKeeps.states_eq,
    Std.HashMap.isSome_getElem?_iff_mem]

/- An update changes both alike. -/
theorem update
    (hKeeps : table.Keeps carry)
    (name : String)
    (state : Structure) :
    (table.update name state).Keeps
      (carry.update name state) := by
  cases hEmpty : state.isEmpty with
  | true =>
      rw [Table.update, Carry.update, if_pos hEmpty,
        if_pos hEmpty]
      exact hKeeps
  | false =>
      constructor
      case order_eq =>
          rw [keys_update carry name hEmpty, Table.update,
            hEmpty, if_neg Bool.false_ne_true]
          simp only [hKeeps.mem_states_iff, hKeeps.order_eq]
      case states_eq =>
          intro kind other
          rw [get?_update, ← hKeeps.states_eq, Table.update,
            hEmpty, if_neg Bool.false_ne_true,
            Std.HashMap.getElem?_insert]
          simp only [reports, hEmpty, beq_iff_eq,
            Prod.mk.injEq, Bool.not_false, Bool.and_true,
            decide_eq_true_eq, eq_comm (b := other)]

theorem updateAll
    (hKeeps : table.Keeps carry)
    (states : List (String × Structure)) :
    (table.updateAll states).Keeps
      (carry.updateAll states) := by
  induction states generalizing table carry with
  | nil => exact hKeeps
  | cons state rest ih =>
      exact ih (hKeeps.update state.1 state.2)

/- Every operation changes both alike. -/
theorem after
    (hKeeps : table.Keeps carry)
    (operation : Operation) :
    (table.after operation).Keeps (carry.after operation) := by
  cases operation with
  | update name state => exact hKeeps.update name state
  | observe frame => exact hKeeps.updateAll (carried frame)
  | clear => exact keeps_empty

end Keeps

/- Whatever was done, the table keeps what is carried. -/
theorem keeps_ofOperations (operations : List Operation) :
    (ofOperations operations).Keeps
      (Carry.ofOperations operations) := by
  induction operations using List.reverseRecOn with
  | nil => exact keeps_empty
  | append_singleton operations operation ih =>
      rw [ofOperations, Carry.ofOperations, List.foldl_concat,
        List.foldl_concat]
      exact ih.after operation

------------------------------------------------------------
-- Parts in Step
------------------------------------------------------------

/-
  Whether the two parts of a table are in step: the order
  lists the keys of the states, each once, and every state is
  one of its kind and not empty.
-/
structure InStep (table : Table) : Prop where
  nodup : table.order.Nodup
  mem_order_iff :
    ∀ key : Kind × String,
      key ∈ table.order ↔ key ∈ table.states
  size_eq : table.states.size = table.order.length
  reported :
    ∀ (kind : Kind) (name : String) (state : Structure),
      table.states[(kind, name)]? = some state →
        reports kind state = true

theorem inStep_empty : empty.InStep where
  nodup := List.nodup_nil
  mem_order_iff := by simp [empty]
  size_eq := rfl
  reported := by simp [empty]

namespace InStep

variable {table : Table}

/- A state that is reported may be added to them. -/
theorem reported_insert
    (hStep : table.InStep)
    {name : String}
    {state : Structure}
    (hEmpty : state.isEmpty = false)
    {kind : Kind}
    {other : String}
    {found : Structure}
    (hFound :
      (table.states.insert (state.kind, name)
          state)[(kind, other)]? = some found) :
    reports kind found = true := by
  rw [Std.HashMap.getElem?_insert] at hFound
  split at hFound
  case isTrue hKey =>
      cases hFound
      simp only [beq_iff_eq, Prod.mk.injEq] at hKey
      simp [reports, hKey.1, hEmpty]
  case isFalse => exact hStep.reported kind other found hFound

/- An update keeps the parts in step. -/
theorem update
    (hStep : table.InStep)
    (name : String)
    (state : Structure) :
    (table.update name state).InStep := by
  cases hEmpty : state.isEmpty with
  | true =>
      rw [Table.update, if_pos hEmpty]
      exact hStep
  | false =>
      rw [Table.update, hEmpty, if_neg Bool.false_ne_true]
      by_cases hOld : (state.kind, name) ∈ table.states
      · rw [if_pos hOld]
        refine ⟨hStep.nodup, fun key => ?_, ?_, fun _ _ _ =>
          hStep.reported_insert hEmpty⟩
        · rw [hStep.mem_order_iff, Std.HashMap.mem_insert,
            beq_iff_eq]
          exact ⟨Or.inr, fun h => h.elim (· ▸ hOld) id⟩
        · rw [Std.HashMap.size_insert, if_pos hOld]
          exact hStep.size_eq
      · rw [if_neg hOld]
        have hNew : (state.kind, name) ∉ table.order :=
          mt (hStep.mem_order_iff _).mp hOld
        have hNodup :
            (table.order ++ [(state.kind, name)]).Nodup := by
          rw [← List.concat_eq_append]
          exact hStep.nodup.concat hNew
        refine ⟨hNodup, fun key => ?_, ?_, fun _ _ _ =>
          hStep.reported_insert hEmpty⟩
        · rw [List.mem_append, List.mem_singleton,
            hStep.mem_order_iff, Std.HashMap.mem_insert,
            beq_iff_eq, or_comm, eq_comm]
        · rw [Std.HashMap.size_insert, if_neg hOld,
            hStep.size_eq, List.length_append]
          rfl

theorem updateAll
    (hStep : table.InStep)
    (states : List (String × Structure)) :
    (table.updateAll states).InStep := by
  induction states generalizing table with
  | nil => exact hStep
  | cons state rest ih => exact ih (hStep.update state.1 state.2)

/- Every operation keeps the parts in step. -/
theorem after
    (hStep : table.InStep)
    (operation : Operation) : (table.after operation).InStep := by
  cases operation with
  | update name state => exact hStep.update name state
  | observe frame => exact hStep.updateAll (carried frame)
  | clear => exact inStep_empty

end InStep

/- Whatever was done, the parts of the table are in step. -/
theorem inStep_ofOperations (operations : List Operation) :
    (ofOperations operations).InStep := by
  induction operations using List.reverseRecOn with
  | nil => exact inStep_empty
  | append_singleton operations operation ih =>
      rw [ofOperations, List.foldl_concat]
      exact ih.after operation

end Table

end Carry

end TracePlayer
