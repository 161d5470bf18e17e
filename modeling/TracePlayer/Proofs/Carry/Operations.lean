import Mathlib.Data.List.Nodup
import TracePlayer.Carry

/-
  This file defines what can be done to carried structures and
  proves that no structure is ever carried twice: whatever
  operations led to them, the kinds and names are distinct.

  Main declarations:
    * `Carry.Operation`, `Carry.after`, `Carry.ofOperations`
    * `Carry.Distinct`
    * `Carry.Distinct.update`, `Carry.Distinct.observe`
    * `Carry.distinct_ofOperations`
    * `Carry.Distinct.nodup_names`
-/

namespace TracePlayer

namespace Carry

------------------------------------------------------------
-- Operations
------------------------------------------------------------

/- Everything that can be done to carried structures. -/
inductive Operation where
| update (name : String) (state : Structure)
| observe (frame : Frame)
| clear
deriving DecidableEq

/- What is carried after an operation. -/
def after (carry : Carry) : Operation → Carry
| .update name state => carry.update name state
| .observe frame => carry.observe frame
| .clear => empty

/- What is carried after operations, one after the other. -/
def ofOperations (operations : List Operation) : Carry :=
  operations.foldl after empty

------------------------------------------------------------
-- Distinct Structures
------------------------------------------------------------

/- Whether every structure is carried once. -/
def Distinct (carry : Carry) : Prop :=
  carry.keys.Nodup

theorem distinct_empty : empty.Distinct :=
  List.nodup_nil

namespace Distinct

variable {carry : Carry}

theorem update
    (hDistinct : carry.Distinct)
    (name : String)
    (state : Structure) :
    (carry.update name state).Distinct := by
  unfold Carry.update
  split
  case isTrue => exact hDistinct
  case isFalse => exact nodup_keys_put _ _ _ hDistinct

theorem updateAll
    {states : List (String × Structure)}
    (hDistinct : carry.Distinct) :
    (carry.updateAll states).Distinct := by
  unfold Carry.updateAll
  induction states generalizing carry with
  | nil => exact hDistinct
  | cons state rest ih =>
      exact ih (hDistinct.update state.1 state.2)

theorem observe
    (hDistinct : carry.Distinct)
    (frame : Frame) : (carry.observe frame).Distinct :=
  hDistinct.updateAll

/- Every operation keeps the structures distinct. -/
theorem after
    (hDistinct : carry.Distinct)
    (operation : Operation) :
    (carry.after operation).Distinct := by
  cases operation with
  | update name state => exact hDistinct.update name state
  | observe frame => exact hDistinct.observe frame
  | clear => exact distinct_empty

/- The names of one kind are distinct. -/
theorem nodup_names
    (hDistinct : carry.Distinct)
    (kind : Kind) : (carry.names kind).Nodup := by
  unfold names
  refine (List.Nodup.filter _ hDistinct).map_on ?_
  intro key hKey other hOther hName
  have hKind : key.1 = kind := by
    simpa using (List.mem_filter.mp hKey).2
  have hOtherKind : other.1 = kind := by
    simpa using (List.mem_filter.mp hOther).2
  exact Prod.ext (hKind.trans hOtherKind.symm) hName

end Distinct

/- Whatever was done, every structure is carried once. -/
theorem distinct_ofOperations
    (operations : List Operation) :
    (ofOperations operations).Distinct := by
  unfold ofOperations
  have hRun :
      ∀ carry : Carry, carry.Distinct →
        (operations.foldl after carry).Distinct := by
    induction operations with
    | nil => exact fun _ hDistinct => hDistinct
    | cons operation rest ih =>
        intro carry hDistinct
        exact ih _ (hDistinct.after operation)
  exact hRun empty distinct_empty

end Carry

end TracePlayer
