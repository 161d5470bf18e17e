/-
  This file defines finite maps from names to values that
  keep the order in which the names were first written.

  Key definitions include:
    * `put` on lists of pairs
    * `Named`
    * `Named.get?`, `Named.contains`
    * `Named.insert`, `Named.ofList`
-/

namespace TracePlayer

------------------------------------------------------------
-- Lists of Pairs
------------------------------------------------------------

/-
  Write a value under a key: a key that is there keeps its
  place and takes the value, a new one goes to the end.
-/
def put
    {κ α : Type}
    [DecidableEq κ]
    (key : κ)
    (value : α) : List (κ × α) → List (κ × α)
| [] => [(key, value)]
| (other, old) :: rest =>
    if other = key then
      (other, value) :: rest
    else
      (other, old) :: put key value rest

/- The keys after a write are the old ones and the new one. -/
theorem mem_keys_put
    {κ α : Type}
    [DecidableEq κ]
    (key other : κ)
    (value : α)
    (entries : List (κ × α)) :
    other ∈ (put key value entries).map Prod.fst ↔
      other = key ∨ other ∈ entries.map Prod.fst := by
  induction entries with
  | nil => simp [put]
  | cons entry rest ih =>
      obtain ⟨first, old⟩ := entry
      by_cases h : first = key
      · simp only [put, h, if_true, List.map_cons,
          List.mem_cons]
        exact ⟨fun hMem => Or.inr hMem,
          fun hMem => hMem.elim Or.inl id⟩
      · simp only [put, if_neg h, List.map_cons,
          List.mem_cons, ih]
        exact or_left_comm

/- A write keeps the keys distinct. -/
theorem nodup_keys_put
    {κ α : Type}
    [DecidableEq κ]
    (key : κ)
    (value : α)
    (entries : List (κ × α))
    (hNodup : (entries.map Prod.fst).Nodup) :
    ((put key value entries).map Prod.fst).Nodup := by
  induction entries with
  | nil => simp [put]
  | cons entry rest ih =>
      obtain ⟨first, old⟩ := entry
      simp only [List.map_cons, List.nodup_cons] at hNodup
      by_cases h : first = key
      · simpa only [put, h, if_true, List.map_cons,
          List.nodup_cons] using h ▸ hNodup
      · simp only [put, if_neg h, List.map_cons,
          List.nodup_cons, mem_keys_put]
        exact ⟨not_or.mpr ⟨h, hNodup.1⟩, ih hNodup.2⟩

------------------------------------------------------------
-- Ordered Maps
------------------------------------------------------------

/- A map from names, in the order of their first writing. -/
structure Named (α : Type) where
  entries : List (String × α)
  distinct : (entries.map Prod.fst).Nodup
deriving DecidableEq

namespace Named

variable {α β : Type}

def empty : Named α :=
  ⟨[], List.nodup_nil⟩

instance : Inhabited (Named α) :=
  ⟨empty⟩

def names (m : Named α) : List String :=
  m.entries.map Prod.fst

def isEmpty (m : Named α) : Bool :=
  m.entries.isEmpty

/- The value under a name. -/
def get?
    (m : Named α)
    (name : String) : Option α :=
  m.entries.lookup name

def contains
    (m : Named α)
    (name : String) : Bool :=
  m.entries.any fun entry => entry.1 = name

/- Write a value under a name. -/
def insert
    (m : Named α)
    (name : String)
    (value : α) : Named α :=
  ⟨put name value m.entries,
    nodup_keys_put name value m.entries m.distinct⟩

/-
  Write a list of pairs one after the other: a repeated name
  keeps its first place and takes the last value.
-/
def ofList (pairs : List (String × α)) : Named α :=
  pairs.foldl (fun m pair => m.insert pair.1 pair.2) empty

/- Apply a function to every value. -/
def map
    (f : α → β)
    (m : Named α) : Named β :=
  ⟨m.entries.map fun entry => (entry.1, f entry.2), by
    simpa [Function.comp_def] using m.distinct⟩

end Named

end TracePlayer
