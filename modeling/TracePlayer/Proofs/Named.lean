import TracePlayer.Named

/-
  This file proves what is in an ordered map: which keys and
  values are there after a write, where a value is found, and
  that a map is its entries, written one after the other.

  Main declarations:
    * `keys_put_of_mem`, `put_of_not_mem`, `lookup_put`
    * `put_of_lookup`
    * `lookup_of_not_mem`, `lookup_of_mem`, `mem_of_lookup`
    * `lookup_zip`
    * `lookup_filterMap`, `lookup_filterMap_entries`
    * `Named.mem_entries_iff`, `Named.ofList_entries`
-/

namespace TracePlayer

------------------------------------------------------------
-- Writing to Lists of Pairs
------------------------------------------------------------

section

variable {κ α : Type}
variable [DecidableEq κ]

/- A key that is there keeps its place. -/
theorem keys_put_of_mem
    {key : κ}
    {entries : List (κ × α)}
    (hMem : key ∈ entries.map Prod.fst)
    (value : α) :
    (put key value entries).map Prod.fst =
      entries.map Prod.fst := by
  induction entries with
  | nil => cases hMem
  | cons entry rest ih =>
      obtain ⟨first, old⟩ := entry
      by_cases hFirst : first = key
      · simp [put, hFirst]
      · have hRest : key ∈ rest.map Prod.fst := by
          rcases List.mem_cons.mp hMem with hSame | hRest
          · exact absurd hSame.symm hFirst
          · exact hRest
        simp only [put, if_neg hFirst, List.map_cons,
          ih hRest]

/- A new key goes to the end, with its value. -/
theorem put_of_not_mem
    {key : κ}
    {entries : List (κ × α)}
    (hNew : key ∉ entries.map Prod.fst)
    (value : α) :
    put key value entries = entries ++ [(key, value)] := by
  induction entries with
  | nil => rfl
  | cons entry rest ih =>
      obtain ⟨first, old⟩ := entry
      rw [List.map_cons, List.mem_cons, not_or] at hNew
      rw [put, if_neg (Ne.symm hNew.1), ih hNew.2,
        List.cons_append]

/- The keys after a new one are the old ones and then it. -/
theorem keys_put_of_not_mem
    {key : κ}
    {entries : List (κ × α)}
    (hNew : key ∉ entries.map Prod.fst)
    (value : α) :
    (put key value entries).map Prod.fst =
      entries.map Prod.fst ++ [key] := by
  rw [put_of_not_mem hNew, List.map_append]
  rfl

/- A write changes the value under its key only. -/
theorem lookup_put
    [BEq κ]
    [LawfulBEq κ]
    (key other : κ)
    (value : α)
    (entries : List (κ × α)) :
    (put key value entries).lookup other =
      if other = key then some value
      else entries.lookup other := by
  induction entries with
  | nil =>
      by_cases hKey : other = key
      · simp [put, hKey]
      · have hNe : (other == key) = false :=
          beq_eq_false_iff_ne.mpr hKey
        simp [put, hKey, hNe, List.lookup_cons]
  | cons entry rest ih =>
      obtain ⟨first, old⟩ := entry
      by_cases hOther : other = first
      · subst hOther
        by_cases hKey : other = key
        · simp [put, hKey]
        · simp [put, hKey]
      · have hNe : (other == first) = false :=
          beq_eq_false_iff_ne.mpr hOther
        by_cases hFirst : first = key
        · subst hFirst
          simp [put, hOther, hNe, List.lookup_cons]
        · simp [put, hFirst, hNe, List.lookup_cons, ih]

/- A value that is there already is written over itself. -/
theorem put_of_lookup
    [BEq κ]
    [LawfulBEq κ]
    {key : κ}
    {value : α}
    {entries : List (κ × α)}
    (hThere : entries.lookup key = some value) :
    put key value entries = entries := by
  induction entries with
  | nil => cases hThere
  | cons entry rest ih =>
      obtain ⟨first, old⟩ := entry
      by_cases hFirst : first = key
      · subst hFirst
        rw [List.lookup_cons_self, Option.some.injEq] at hThere
        rw [put, if_pos rfl, hThere]
      · have hNe : (key == first) = false :=
          beq_eq_false_iff_ne.mpr (Ne.symm hFirst)
        rw [List.lookup_cons, hNe] at hThere
        rw [put, if_neg hFirst, ih hThere]

end

------------------------------------------------------------
-- Looking Up in Lists of Pairs
------------------------------------------------------------

section

variable {κ α β : Type}
variable [BEq κ]

/- Values are looked up before or after they are changed. -/
theorem lookup_map_snd
    (f : α → β)
    (entries : List (κ × α))
    (key : κ) :
    (entries.map fun entry => (entry.1, f entry.2)).lookup key =
      (entries.lookup key).map f := by
  induction entries with
  | nil => rfl
  | cons entry rest ih =>
      obtain ⟨first, value⟩ := entry
      rw [List.map_cons, List.lookup_cons, List.lookup_cons,
        ih]
      cases key == first <;> rfl

variable [LawfulBEq κ]

/- Entries are looked up before or after, when keys stay. -/
theorem lookup_map_of_keys
    {f : κ × α → κ × β}
    (hKeys : ∀ entry, (f entry).1 = entry.1)
    (entries : List (κ × α))
    (key : κ) :
    (entries.map f).lookup key =
      (entries.lookup key).map fun value =>
        (f (key, value)).2 := by
  induction entries with
  | nil => rfl
  | cons entry rest ih =>
      rw [List.map_cons, List.lookup_cons, List.lookup_cons,
        hKeys, ih]
      split
      case h_1 hFirst =>
          rw [beq_iff_eq] at hFirst
          rw [hFirst]
          rfl
      case h_2 => rfl

/- A key that is not there has no value. -/
theorem lookup_of_not_mem
    {key : κ}
    {entries : List (κ × α)}
    (hNew : key ∉ entries.map Prod.fst) :
    entries.lookup key = none := by
  rw [List.lookup_eq_none_iff]
  intro entry hMem
  refine bne_iff_ne.mpr fun hSame => hNew ?_
  rw [hSame]
  exact List.mem_map_of_mem hMem

/- Among distinct keys, an entry is found under its key. -/
theorem lookup_of_mem
    {entries : List (κ × α)}
    (hNodup : (entries.map Prod.fst).Nodup)
    {entry : κ × α}
    (hMem : entry ∈ entries) :
    entries.lookup entry.1 = some entry.2 := by
  induction entries with
  | nil => cases hMem
  | cons first rest ih =>
      rw [List.map_cons, List.nodup_cons] at hNodup
      rcases List.mem_cons.mp hMem with rfl | hRest
      · rw [List.lookup_cons_self]
      · have hNe : (entry.1 == first.1) = false := by
          refine beq_eq_false_iff_ne.mpr fun hSame => ?_
          exact hNodup.1 (hSame ▸ List.mem_map_of_mem hRest)
        rw [List.lookup_cons, hNe]
        exact ih hNodup.2 hRest

/- A value that is found is in an entry with the key. -/
theorem mem_of_lookup
    {key : κ}
    {value : α}
    {entries : List (κ × α)}
    (hFound : entries.lookup key = some value) :
    (key, value) ∈ entries := by
  rcases List.lookup_eq_some_iff.mp hFound with
    ⟨before, after, hEntries, _⟩
  rw [hEntries]
  exact List.mem_append_right _ List.mem_cons_self

/- Among distinct keys the order does not matter. -/
theorem lookup_reverse
    {entries : List (κ × α)}
    (hNodup : (entries.map Prod.fst).Nodup)
    (key : κ) :
    entries.reverse.lookup key = entries.lookup key := by
  induction entries with
  | nil => rfl
  | cons entry rest ih =>
      obtain ⟨first, value⟩ := entry
      rw [List.map_cons, List.nodup_cons] at hNodup
      rw [List.reverse_cons, List.lookup_append,
        ih hNodup.2, List.lookup_cons]
      by_cases hFirst : key = first
      · subst hFirst
        rw [lookup_of_not_mem hNodup.1]
        simp
      · have hNe : (key == first) = false :=
          beq_eq_false_iff_ne.mpr hFirst
        simp [hNe, List.lookup_cons]

/-
  Among distinct keys, a value is looked up before or after
  the entries that have no result are left out.
-/
theorem lookup_filterMap_entries
    {entries : List (κ × α)}
    (hNodup : (entries.map Prod.fst).Nodup)
    (f : κ → α → Option β)
    (key : κ) :
    (entries.filterMap fun entry =>
        (f entry.1 entry.2).map fun result =>
          (entry.1, result)).lookup key =
      (entries.lookup key).bind (f key) := by
  induction entries with
  | nil => rfl
  | cons entry rest ih =>
      obtain ⟨first, value⟩ := entry
      rw [List.map_cons, List.nodup_cons] at hNodup
      have hRest := ih hNodup.2
      by_cases hFirst : key = first
      · subst hFirst
        cases hResult : f key value with
        | none =>
            rw [lookup_of_not_mem hNodup.1] at hRest
            simp [hResult, hRest]
        | some result => simp [hResult]
      · have hNe : (key == first) = false :=
          beq_eq_false_iff_ne.mpr hFirst
        cases hResult : f first value with
        | none => simp [hResult, hRest, hNe, List.lookup_cons]
        | some result =>
            simp [hResult, hRest, hNe, List.lookup_cons]

/-
  Among distinct keys, a value is found in the entries that
  are kept exactly when it is itself kept.
-/
theorem lookup_filter
    {entries : List (κ × α)}
    (hNodup : (entries.map Prod.fst).Nodup)
    (keeps : α → Bool)
    (key : κ) :
    (entries.filter fun entry => keeps entry.2).lookup key =
      (entries.lookup key).filter keeps := by
  have hKept :
      (entries.filter fun entry => keeps entry.2) =
        entries.filterMap fun entry =>
          (Option.guard keeps entry.2).map fun value =>
            (entry.1, value) := by
    rw [← List.filterMap_eq_filter]
    congr 1
    funext entry
    cases hKeeps : keeps entry.2 <;>
      simp [Option.guard, hKeeps]
  have hFound :=
    lookup_filterMap_entries hNodup
      (fun _ value => Option.guard keeps value) key
  rw [hKept, hFound]
  cases entries.lookup key <;> rfl

end

------------------------------------------------------------
-- Keys with Values
------------------------------------------------------------

section

variable {κ α : Type}

/- Distinct keys stay so when values are put beside them. -/
theorem nodup_keys_zip
    {keys : List κ}
    (hNodup : keys.Nodup)
    (values : List α) :
    ((keys.zip values).map Prod.fst).Nodup := by
  rw [List.zip_eq_zip_take_min, List.map_fst_zip]
  · exact hNodup.sublist (List.take_sublist ..)
  · rw [List.length_take, List.length_take]
    omega

/- A key beside values is found with the one in its place. -/
theorem lookup_zip
    [BEq κ]
    [LawfulBEq κ]
    {keys : List κ}
    (hNodup : keys.Nodup)
    {place : Nat}
    {key : κ}
    (hKey : keys[place]? = some key)
    (values : List α) :
    (keys.zip values).lookup key = values[place]? := by
  induction keys generalizing place values with
  | nil => cases hKey
  | cons first rest ih =>
      rw [List.nodup_cons] at hNodup
      cases values with
      | nil => rfl
      | cons value others =>
          cases place with
          | zero =>
              cases hKey
              rw [List.zip_cons_cons, List.lookup_cons_self]
              rfl
          | succ place =>
              have hMem : key ∈ rest :=
                List.mem_of_getElem? hKey
              have hNe : (key == first) = false := by
                refine beq_eq_false_iff_ne.mpr fun hSame => ?_
                exact hNodup.1 (hSame ▸ hMem)
              rw [List.zip_cons_cons, List.lookup_cons, hNe]
              exact ih hNodup.2 hKey others

/- The keys that have a value are among the keys. -/
theorem keys_filterMap_sublist
    (f : κ → Option α)
    (keys : List κ) :
    ((keys.filterMap fun key =>
        (f key).map fun value => (key, value)).map
      Prod.fst).Sublist keys := by
  induction keys with
  | nil => exact List.Sublist.slnil
  | cons first rest ih =>
      cases hValue : f first with
      | none => simpa [hValue] using ih.cons first
      | some value => simpa [hValue] using ih

/- The keys that have a value are paired with it. -/
theorem lookup_filterMap
    [BEq κ]
    [LawfulBEq κ]
    [DecidableEq κ]
    (f : κ → Option α)
    (keys : List κ)
    (key : κ) :
    (keys.filterMap fun key =>
        (f key).map fun value => (key, value)).lookup key =
      if key ∈ keys then f key else none := by
  induction keys with
  | nil => rfl
  | cons first rest ih =>
      by_cases hFirst : key = first
      · subst hFirst
        cases hValue : f key with
        | none => simp [hValue, ih]
        | some value => simp [hValue]
      · have hNe : (key == first) = false :=
          beq_eq_false_iff_ne.mpr hFirst
        cases hValue : f first with
        | none => simp [hValue, ih, hFirst]
        | some value =>
            simp [hValue, ih, hFirst, hNe, List.lookup_cons]

end

------------------------------------------------------------
-- Ordered Maps
------------------------------------------------------------

namespace Named

variable {α β : Type}

/- A name with a value is one of the names. -/
theorem mem_names_of_get?
    {m : Named α}
    {name : String}
    {value : α}
    (hValue : m.get? name = some value) : name ∈ m.names := by
  apply Decidable.byContradiction
  intro hNew
  rw [get?, lookup_of_not_mem hNew] at hValue
  cases hValue

theorem contains_iff
    (m : Named α)
    {name : String} :
    m.contains name = true ↔ name ∈ m.names := by
  simp [contains, names]

/- The entries of a map are its names with their values. -/
theorem mem_entries_iff
    (m : Named α)
    (name : String)
    (value : α) :
    (name, value) ∈ m.entries ↔ m.get? name = some value :=
  ⟨lookup_of_mem m.distinct, mem_of_lookup⟩

/- A map without entries has no values. -/
theorem get?_of_isEmpty
    {m : Named α}
    (hEmpty : m.isEmpty = true)
    (name : String) :
    m.get? name = none := by
  rw [get?, List.isEmpty_iff.mp hEmpty, List.lookup_nil]

@[ext] theorem ext_entries
    {m n : Named α}
    (hEntries : m.entries = n.entries) : m = n := by
  cases m
  cases n
  cases hEntries
  rfl

/- Distinct names are written one after the other. -/
theorem entries_foldl_insert
    {pairs : List (String × α)}
    {m : Named α}
    (hDistinct : ((m.entries ++ pairs).map Prod.fst).Nodup) :
    (pairs.foldl
        (fun m pair => m.insert pair.1 pair.2) m).entries =
      m.entries ++ pairs := by
  induction pairs generalizing m with
  | nil => rw [List.foldl_nil, List.append_nil]
  | cons pair rest ih =>
      have hNew : pair.1 ∉ m.entries.map Prod.fst := by
        rw [List.map_append, List.map_cons] at hDistinct
        exact fun hOld =>
          (List.nodup_append.mp hDistinct).2.2 _ hOld _
            List.mem_cons_self rfl
      have hInsert :
          (m.insert pair.1 pair.2).entries =
            m.entries ++ [pair] :=
        put_of_not_mem hNew pair.2
      rw [List.foldl_cons, ih, hInsert, List.append_assoc,
        List.singleton_append]
      rwa [hInsert, List.append_assoc, List.singleton_append]

/- The entries of a map give the map back. -/
theorem ofList_entries (m : Named α) :
    ofList m.entries = m := by
  ext1
  have hDistinct :
      (((empty : Named α).entries ++ m.entries).map
        Prod.fst).Nodup :=
    m.distinct
  exact entries_foldl_insert hDistinct

@[simp] theorem entries_map
    (f : α → β)
    (m : Named α) :
    (m.map f).entries =
      m.entries.map fun entry => (entry.1, f entry.2) :=
  rfl

theorem map_id (m : Named α) : m.map id = m := by
  ext1
  exact List.map_id _

end Named

end TracePlayer
