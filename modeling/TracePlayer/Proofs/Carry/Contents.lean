import Mathlib.Data.List.Induction
import TracePlayer.Carry
import TracePlayer.Proofs.Named

/-
  This file proves what carried structures hold after a list
  of states: for each structure the last state that was not
  empty, in the order in which such states first came.

  Main declarations:
    * `eraseDups_concat_of_mem`, `eraseDups_concat_of_not_mem`
    * `Carry.reports`, `Carry.reportsOf`
    * `Carry.names_updateAll`, `Carry.get?_updateAll`
-/

namespace TracePlayer

------------------------------------------------------------
-- Lists without Repeats
------------------------------------------------------------

/- An element that was there before is not counted again. -/
theorem eraseDups_concat_of_mem
    {α : Type}
    [BEq α]
    [LawfulBEq α]
    {items : List α}
    {item : α}
    (hMem : item ∈ items) :
    (items ++ [item]).eraseDups = items.eraseDups := by
  rw [List.eraseDups_append, List.cons_removeAll,
    if_neg (by simp [hMem])]
  exact List.append_nil _

/- A new element goes to the end. -/
theorem eraseDups_concat_of_not_mem
    {α : Type}
    [BEq α]
    [LawfulBEq α]
    {items : List α}
    {item : α}
    (hNew : item ∉ items) :
    (items ++ [item]).eraseDups =
      items.eraseDups ++ [item] := by
  rw [List.eraseDups_append, List.cons_removeAll,
    if_pos (by simp [hNew])]
  rfl

/- A list in which every element stays once has no repeats. -/
theorem nodup_eraseDups
    {α : Type}
    [BEq α]
    [LawfulBEq α]
    (items : List α) :
    items.eraseDups.Nodup := by
  induction items using List.reverseRecOn with
  | nil => exact List.nodup_nil
  | append_singleton items item ih =>
      by_cases hMem : item ∈ items
      · rwa [eraseDups_concat_of_mem hMem]
      · rw [eraseDups_concat_of_not_mem hMem]
        refine List.nodup_append.mpr
          ⟨ih, by simp, fun other hOther last hLast => ?_⟩
        rw [List.mem_eraseDups] at hOther
        rw [List.mem_singleton] at hLast
        rintro rfl
        exact hMem (hLast ▸ hOther)

namespace Carry

------------------------------------------------------------
-- Updates
------------------------------------------------------------

variable {carry : Carry}
variable {kind : Kind}

/- Whether a state is of a kind and not empty. -/
def reports
    (kind : Kind)
    (state : Structure) : Bool :=
  state.kind = kind && !state.isEmpty

theorem mem_names
    {name : String} :
    name ∈ carry.names kind ↔
      (kind, name) ∈ carry.keys := by
  simp [names]

/- An empty state, or one of another kind, adds no name. -/
theorem names_update_of_not_reports
    {state : Structure}
    (hReports : reports kind state = false)
    (name : String) :
    (carry.update name state).names kind =
      carry.names kind := by
  cases hEmpty : state.isEmpty with
  | true => simp [update, hEmpty]
  | false =>
      have hKind : state.kind ≠ kind := by
        simpa [reports, hEmpty] using hReports
      rw [update, hEmpty, if_neg Bool.false_ne_true]
      by_cases hMem : (state.kind, name) ∈ carry.keys
      · rw [names, keys, keys_put_of_mem hMem]
        rfl
      · rw [names, keys, keys_put_of_not_mem hMem,
          List.filter_append]
        simp [hKind, names, keys]

/- A known name is not added again. -/
theorem names_update_of_mem
    {name : String}
    (hMem : name ∈ carry.names kind)
    (state : Structure) :
    (carry.update name state).names kind =
      carry.names kind := by
  cases hReports : reports kind state with
  | false => exact names_update_of_not_reports hReports name
  | true =>
      rcases Bool.and_eq_true_iff.mp hReports with
        ⟨hKind, hEmpty⟩
      have hKey : (state.kind, name) ∈ carry.keys := by
        rw [of_decide_eq_true hKind]
        exact mem_names.mp hMem
      rw [update, if_neg (by simpa using hEmpty), names,
        keys, keys_put_of_mem hKey]
      rfl

/- A new name goes to the end. -/
theorem names_update_of_reports
    {name : String}
    {state : Structure}
    (hReports : reports kind state = true)
    (hNew : name ∉ carry.names kind) :
    (carry.update name state).names kind =
      carry.names kind ++ [name] := by
  rcases Bool.and_eq_true_iff.mp hReports with
    ⟨hKind, hEmpty⟩
  have hSame : state.kind = kind := of_decide_eq_true hKind
  have hKey : (state.kind, name) ∉ carry.keys := by
    rw [hSame]
    exact fun hMem => hNew (mem_names.mpr hMem)
  rw [update, if_neg (by simpa using hEmpty), names, keys,
    keys_put_of_not_mem hKey, List.filter_append]
  simp [hSame, names, keys]

/-
  A state that is reported replaces that of its name, and
  every other is kept.
-/
theorem get?_update
    (carry : Carry)
    (kind : Kind)
    (name other : String)
    (state : Structure) :
    (carry.update name state).get? kind other =
      if reports kind state = true ∧ other = name then
        some state
      else
        carry.get? kind other := by
  cases hEmpty : state.isEmpty with
  | true => simp [update, reports, hEmpty]
  | false =>
      rw [get?, update, hEmpty, if_neg Bool.false_ne_true,
        lookup_put]
      simp only [get?, reports, hEmpty, Prod.mk.injEq,
        Bool.not_false, Bool.and_true, decide_eq_true_eq,
        eq_comm (a := kind)]

------------------------------------------------------------
-- Lists of States
------------------------------------------------------------

/- The states of a list that are reported for a kind. -/
def reportsOf
    (kind : Kind)
    (states : List (String × Structure)) :
    List (String × Structure) :=
  states.filter fun state => reports kind state.2

theorem updateAll_concat
    (carry : Carry)
    (states : List (String × Structure))
    (state : String × Structure) :
    carry.updateAll (states ++ [state]) =
      (carry.updateAll states).update state.1 state.2 := by
  rw [updateAll, List.foldl_append]
  rfl

theorem reportsOf_append
    (kind : Kind)
    (states more : List (String × Structure)) :
    reportsOf kind (states ++ more) =
      reportsOf kind states ++ reportsOf kind more :=
  List.filter_append ..

theorem reportsOf_concat_of_reports
    {state : String × Structure}
    (hReports : reports kind state.2 = true)
    (states : List (String × Structure)) :
    reportsOf kind (states ++ [state]) =
      reportsOf kind states ++ [state] := by
  simp [reportsOf, hReports]

theorem reportsOf_concat_of_not_reports
    {state : String × Structure}
    (hReports : reports kind state.2 = false)
    (states : List (String × Structure)) :
    reportsOf kind (states ++ [state]) =
      reportsOf kind states := by
  simp [reportsOf, hReports]

/-
  The names of a kind are those of its reports, each at its
  first place.
-/
theorem names_updateAll
    (kind : Kind)
    (states : List (String × Structure)) :
    (empty.updateAll states).names kind =
      ((reportsOf kind states).map Prod.fst).eraseDups := by
  induction states using List.reverseRecOn with
  | nil => rfl
  | append_singleton states state ih =>
      have hMem :
          state.1 ∈ (empty.updateAll states).names kind ↔
            state.1 ∈ (reportsOf kind states).map Prod.fst := by
        rw [ih, List.mem_eraseDups]
      rw [updateAll_concat]
      cases hReports : reports kind state.2 with
      | false =>
          rw [names_update_of_not_reports hReports, ih,
            reportsOf_concat_of_not_reports hReports]
      | true =>
          rw [reportsOf_concat_of_reports hReports,
            List.map_append, List.map_singleton]
          by_cases hOld :
              state.1 ∈ (empty.updateAll states).names kind
          · rw [names_update_of_mem hOld, ih]
            exact (eraseDups_concat_of_mem
              (hMem.mp hOld)).symm
          · rw [names_update_of_reports hReports hOld, ih]
            exact (eraseDups_concat_of_not_mem
              (mt hMem.mpr hOld)).symm

/-
  The state of a name is that of its last report, or else
  what it was before.
-/
theorem get?_updateAll_or
    (carry : Carry)
    (kind : Kind)
    (name : String)
    (states : List (String × Structure)) :
    (carry.updateAll states).get? kind name =
      ((reportsOf kind states).reverse.lookup name).or
        (carry.get? kind name) := by
  induction states using List.reverseRecOn with
  | nil => rfl
  | append_singleton states state ih =>
      obtain ⟨other, state⟩ := state
      rw [updateAll_concat, get?_update, ih]
      cases hReports : reports kind state with
      | false =>
          rw [reportsOf_concat_of_not_reports hReports]
          simp
      | true =>
          rw [reportsOf_concat_of_reports hReports,
            List.reverse_append]
          by_cases hName : name = other
          · simp [hName]
          · have hNe : (name == other) = false :=
              beq_eq_false_iff_ne.mpr hName
            simp [hName, hNe, List.lookup_cons]

/- With nothing before, it is that of its last report. -/
theorem get?_updateAll
    (kind : Kind)
    (name : String)
    (states : List (String × Structure)) :
    (empty.updateAll states).get? kind name =
      (reportsOf kind states).reverse.lookup name := by
  have hNothing : empty.get? kind name = none := rfl
  rw [get?_updateAll_or, hNothing, Option.or_none]

end Carry

end TracePlayer
