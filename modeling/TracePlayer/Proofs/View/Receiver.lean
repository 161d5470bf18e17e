import TracePlayer.Proofs.View.Entries

/-
  This file proves that leaving out a receiver loses nothing:
  it is only left out when its identity is that of another
  entry, which stays, and all else stays as it is. So every
  linked list of a step is shown, or it is a receiver whose
  values are shown under another name.

  Main declarations:
    * `receiverRepeats_iff_repeated`
    * `OmitsReceiver`, `omitsReceiver_dropReceiver`
    * `dropReceiver_dropReceiver`
    * `dropReceiver_perm`
    * `View.shows_or_repeats`
    * `dropReceiver_loses_nothing`
-/

namespace TracePlayer

------------------------------------------------------------
-- Repeated Identities
------------------------------------------------------------

section

variable {α κ : Type}
variable [BEq κ]
variable {identity : α → Option κ}
variable {entries : List (String × α)}

/-
  Whether an item has an identity that is also that of an
  entry other than the receiver.
-/
def Repeated
    (identity : α → Option κ)
    (entries : List (String × α))
    (own : α) : Prop :=
  ∃ id, identity own = some id ∧
    ∃ other ∈ entries,
      other.1 ≠ receiverName ∧ identity other.2 = some id

/- A receiver repeats when its identity is repeated. -/
theorem receiverRepeats_iff_repeated [LawfulBEq κ] :
    receiverRepeats identity entries = true ↔
      ∃ own,
        (receiverName, own) ∈ entries ∧
          Repeated identity entries own := by
  unfold receiverRepeats
  rw [List.any_eq_true]
  constructor
  · rintro ⟨⟨name, own⟩, hMem, hRepeats⟩
    rw [Bool.and_eq_true, beq_iff_eq] at hRepeats
    rcases hRepeats with ⟨rfl, hIdentity⟩
    refine ⟨own, hMem, ?_⟩
    split at hIdentity
    case h_1 id hId =>
      rcases List.any_eq_true.mp hIdentity with
        ⟨other, hOther, hRepeats⟩
      rw [Bool.and_eq_true, bne_iff_ne] at hRepeats
      rcases hRepeats with ⟨hName, hRepeats⟩
      split at hRepeats
      case h_1 otherId hOtherId =>
        rw [eq_of_beq hRepeats] at hOtherId
        exact ⟨id, hId, other, hOther, hName, hOtherId⟩
      case h_2 => cases hRepeats
    case h_2 => cases hIdentity
  · rintro ⟨own, hMem, id, hId, other, hOther, hName, hOtherId⟩
    refine ⟨(receiverName, own), hMem, ?_⟩
    rw [Bool.and_eq_true, beq_self_eq_true]
    simp only [hId, true_and]
    refine List.any_eq_true.mpr ⟨other, hOther, ?_⟩
    rw [Bool.and_eq_true, bne_iff_ne]
    exact ⟨hName, by simp only [hOtherId, beq_self_eq_true]⟩

------------------------------------------------------------
-- Entries That Stay
------------------------------------------------------------

/- Every entry but the receiver stays. -/
theorem mem_dropReceiver_of_ne
    {entry : String × α}
    (hMem : entry ∈ entries)
    (hName : entry.1 ≠ receiverName) :
    entry ∈ dropReceiver identity entries := by
  unfold dropReceiver
  split
  case isTrue =>
      exact List.mem_filter.mpr ⟨hMem, bne_iff_ne.mpr hName⟩
  case isFalse => exact hMem

/- A receiver stays exactly when it does not repeat. -/
theorem mem_dropReceiver_receiver_iff
    {own : α}
    (hMem : (receiverName, own) ∈ entries) :
    (receiverName, own) ∈ dropReceiver identity entries ↔
      receiverRepeats identity entries = false := by
  unfold dropReceiver
  cases receiverRepeats identity entries with
  | true => simp
  | false => simpa using hMem

/-
  Whether of all entries at most the receiver is left out:
  exactly when its identity is repeated, so that every
  identity stays.
-/
structure OmitsReceiver
    (identity : α → Option κ)
    (entries kept : List (String × α)) : Prop where
  kept_eq :
    kept = entries ∨
      kept = entries.filter fun entry => entry.1 ≠ receiverName
  missing_iff :
    ∀ own, (receiverName, own) ∈ entries →
      ((receiverName, own) ∉ kept ↔
        Repeated identity entries own)
  exists_identity :
    ∀ entry ∈ entries, ∃ other ∈ kept,
      identity other.2 = identity entry.2

/- Distinct names have one value each. -/
theorem eq_of_mem_of_nodup
    (hDistinct : (entries.map Prod.fst).Nodup)
    {name : String}
    {item other : α}
    (hItem : (name, item) ∈ entries)
    (hOther : (name, other) ∈ entries) : item = other := by
  have hFound := lookup_of_mem hDistinct hItem
  have hSame := lookup_of_mem hDistinct hOther
  rw [hFound, Option.some.injEq] at hSame
  exact hSame

/- Among distinct names, only a repeating receiver is left out. -/
theorem omitsReceiver_dropReceiver
    [LawfulBEq κ]
    (identity : α → Option κ)
    (hDistinct : (entries.map Prod.fst).Nodup) :
    OmitsReceiver identity entries
      (dropReceiver identity entries) := by
  have hMissing (own : α)
      (hOwn : (receiverName, own) ∈ entries) :
      (receiverName, own) ∉ dropReceiver identity entries ↔
        Repeated identity entries own := by
    rw [mem_dropReceiver_receiver_iff hOwn, Bool.not_eq_false,
      receiverRepeats_iff_repeated]
    constructor
    · rintro ⟨other, hOther, hRepeated⟩
      rwa [eq_of_mem_of_nodup hDistinct hOwn hOther]
    · exact fun hRepeated => ⟨own, hOwn, hRepeated⟩
  constructor
  case kept_eq =>
      unfold dropReceiver
      split
      case isTrue =>
          refine Or.inr (List.filter_congr fun entry _ => ?_)
          exact Bool.eq_iff_iff.mpr (by simp)
      case isFalse => exact Or.inl rfl
  case missing_iff => exact hMissing
  case exists_identity =>
      rintro ⟨name, item⟩ hMem
      by_cases hKept :
          (name, item) ∈ dropReceiver identity entries
      · exact ⟨_, hKept, rfl⟩
      · -- What is not kept is the receiver, and it is repeated.
        have hName : name = receiverName := by
          by_contra hOther
          exact hKept (mem_dropReceiver_of_ne hMem hOther)
        subst hName
        rcases (hMissing item hMem).mp hKept with
          ⟨id, hId, other, hOther, hNotOwn, hSame⟩
        exact ⟨other, mem_dropReceiver_of_ne hOther hNotOwn,
          hSame.trans hId.symm⟩

------------------------------------------------------------
-- Repetition and Order
------------------------------------------------------------

/- Without a receiver, there is none that repeats. -/
theorem receiverRepeats_of_not_mem
    (hNone : ∀ entry ∈ entries, entry.1 ≠ receiverName) :
    receiverRepeats identity entries = false := by
  unfold receiverRepeats
  rw [List.any_eq_false]
  intro entry hMem
  rw [Bool.and_eq_true, beq_iff_eq]
  exact fun hBoth => hNone entry hMem hBoth.1

/- Leaving out the receiver again changes nothing. -/
theorem dropReceiver_dropReceiver
    (identity : α → Option κ)
    (entries : List (String × α)) :
    dropReceiver identity (dropReceiver identity entries) =
      dropReceiver identity entries := by
  cases hRepeats : receiverRepeats identity entries with
  | false =>
      have hAll : dropReceiver identity entries = entries :=
        if_neg (ne_true_of_eq_false hRepeats)
      rw [hAll, hAll]
  | true =>
      have hKept :
          dropReceiver identity entries =
            entries.filter fun entry =>
              entry.1 != receiverName :=
        if_pos hRepeats
      have hNone :
          ∀ entry ∈ dropReceiver identity entries,
            entry.1 ≠ receiverName := by
        rw [hKept]
        intro entry hMem
        exact bne_iff_ne.mp (List.mem_filter.mp hMem).2
      exact if_neg
        (ne_true_of_eq_false (receiverRepeats_of_not_mem hNone))

/- The order of the entries does not matter. -/
theorem receiverRepeats_perm
    {permuted : List (String × α)}
    (hPerm : entries.Perm permuted) :
    receiverRepeats identity entries =
      receiverRepeats identity permuted := by
  have hAny (holds : String × α → Bool) :
      entries.any holds = permuted.any holds :=
    hPerm.any_eq
  unfold receiverRepeats
  simp only [hAny]

/- Entries in another order are kept in another order. -/
theorem dropReceiver_perm
    {permuted : List (String × α)}
    (hPerm : entries.Perm permuted) :
    (dropReceiver identity entries).Perm
      (dropReceiver identity permuted) := by
  unfold dropReceiver
  rw [receiverRepeats_perm hPerm]
  split
  case isTrue => exact hPerm.filter _
  case isFalse => exact hPerm

end

------------------------------------------------------------
-- Linked Lists of a Step
------------------------------------------------------------

/- The linked lists to show are those of the frame or carried. -/
theorem Change.mem_linkedListNames_iff
    (current : Frame)
    (carry : Carry)
    (name : String) :
    name ∈ linkedListNames current carry ↔
      name ∈ current.linkedLists.names ∨
        name ∈ carry.names .linkedList := by
  rw [linkedListNames, List.mem_append, List.mem_filter,
    Bool.not_eq_true', ← Bool.not_eq_true,
    current.linkedLists.contains_iff]
  by_cases hFrame : name ∈ current.linkedLists.names
  · simp [hFrame]
  · simp [hFrame]

namespace View

/-
  Whether the values of a linked list are shown: under its
  name, or, for the receiver, under another name.
-/
def ShowsValues
    (shown : List SequenceEntry)
    (name : String)
    (values : List Json) : Prop :=
  (∃ entry ∈ shown,
    entry.name = name ∧ entry.values = values) ∨
  (name = receiverName ∧
    ∃ entry ∈ shown,
      entry.name ≠ receiverName ∧
        (entry.values == values) = true)

/- The values of every linked list of a step are shown. -/
theorem shows_or_repeats
    {current : Frame}
    {carry : Carry}
    {name : String}
    (hName : name ∈ Change.linkedListNames current carry)
    (grown : List (String × Nat)) :
    ShowsValues (linkedListEntries current carry grown) name
      (Change.linkedListValues current carry name) := by
  let entries :=
    (Change.linkedListNames current carry).map fun name =>
      (name, Change.linkedListValues current carry name)
  have hShown :
      ∀ entry ∈ dropReceiver listIdentity entries,
        ∃ shown ∈ linkedListEntries current carry grown,
          shown.name = entry.1 ∧ shown.values = entry.2 :=
    fun entry hKept =>
      ⟨_, List.mem_map.mpr ⟨entry, hKept, rfl⟩, rfl, rfl⟩
  have hEntry :
      (name, Change.linkedListValues current carry name) ∈
        entries :=
    List.mem_map.mpr ⟨name, hName, rfl⟩
  by_cases hReceiver : name = receiverName
  · cases hRepeats : receiverRepeats listIdentity entries with
    | false =>
        refine Or.inl (hShown (name, _) ?_)
        subst hReceiver
        exact (mem_dropReceiver_receiver_iff hEntry).mpr hRepeats
    | true =>
        rcases (receiverRepeats_iff entries).mp hRepeats with
          ⟨own, hOwn, hOwnName, _, other, hOther, hName, hSame⟩
        rcases List.mem_map.mp hOwn with ⟨_, _, rfl⟩
        cases hOwnName
        rcases hShown other (mem_dropReceiver_of_ne hOther hName)
          with ⟨shown, hMem, hShownName, hValues⟩
        refine Or.inr ⟨hReceiver, shown, hMem, ?_, ?_⟩
        · rwa [hShownName]
        · rwa [hValues, hReceiver]
  · refine Or.inl (hShown (name, _) ?_)
    exact mem_dropReceiver_of_ne hEntry hReceiver

end View

------------------------------------------------------------
-- Nothing Lost
------------------------------------------------------------

/-
  Among entries with distinct names, only a receiver whose
  identity is repeated is left out. Leaving it out again
  changes nothing, and the order of the entries only changes
  the order of what is kept. So the values of every linked
  list of a frame, or carried, are shown in its view.
-/
theorem dropReceiver_loses_nothing
    {α κ : Type}
    [BEq κ]
    [LawfulBEq κ]
    (identity : α → Option κ)
    {entries : List (String × α)}
    (hDistinct : (entries.map Prod.fst).Nodup)
    (index : Nat)
    (current : Frame)
    (previous : Option Frame)
    (carry : Carry) :
    let kept := dropReceiver identity entries
    let shown := (View.ofStep index current previous carry).linkedLists
    OmitsReceiver identity entries kept ∧
    dropReceiver identity kept = kept ∧
    (∀ permuted, entries.Perm permuted →
      kept.Perm (dropReceiver identity permuted)) ∧
    (∀ name,
      name ∈ current.linkedLists.names ∨
          name ∈ carry.names .linkedList →
        View.ShowsValues shown name
          (Change.linkedListValues current carry name)) := by
  intro kept shown
  refine
    ⟨omitsReceiver_dropReceiver identity hDistinct,
      dropReceiver_dropReceiver identity entries,
      fun permuted hPerm => dropReceiver_perm hPerm, ?_⟩
  intro name hName
  exact View.shows_or_repeats
    ((Change.mem_linkedListNames_iff current carry name).mpr
      hName) _

/- A receiver that repeats a list of the frame is left out. -/
theorem dropReceiver_loses_nothing_of_alias :
    let identity : List Nat → Option (List Nat) := some
    let entries := [("self", [1, 2]), ("head", [1, 2])]
    let frame : Frame :=
      { Frame.empty with
        linkedLists :=
          Named.ofList [("self", [.null]), ("head", [.null])] }
    let shown := (View.ofStep 0 frame none Carry.empty).linkedLists
    (entries.map Prod.fst).Nodup ∧
      "self" ∈ frame.linkedLists.names ∧
      OmitsReceiver identity entries [("head", [1, 2])] ∧
      View.ShowsValues shown "self" [.null] := by
  intro identity entries frame shown
  have hDistinct : (entries.map Prod.fst).Nodup := by
    decide
  have hName : "self" ∈ frame.linkedLists.names := by
    decide
  have hLost :=
    dropReceiver_loses_nothing identity hDistinct 0 frame none
      Carry.empty
  exact ⟨hDistinct, hName, hLost.1,
    hLost.2.2.2 "self" (Or.inl hName)⟩

end TracePlayer
