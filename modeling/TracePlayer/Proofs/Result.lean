/-
  This file proves what a result that is there says of the
  results that it was made of.

  Main declarations:
    * `map_map_except`
    * `exists_of_map_eq_ok`, `exists_map_eq_ok`
    * `exists_of_bind_eq_ok`
    * `map_eq_ok_iff`, `bind_eq_ok_iff`
    * `mapError_eq_ok_iff`, `mapError_eq_error_iff`
    * `map_mapError`
    * `cases_of_map_eq_map`
    * `mapM_eq_ok_iff`
-/

namespace TracePlayer

variable {ε δ α β γ : Type}

/- A change of the results of a change is one change. -/
theorem map_map_except
    (f : α → β)
    (g : β → γ)
    (result : Except ε α) :
    (result.map f).map g = result.map fun a => g (f a) := by
  cases result <;> rfl

/- A mapped result is that of a result before it. -/
theorem exists_of_map_eq_ok
    {f : α → β}
    {result : Except ε α}
    {b : β}
    (hMap : result.map f = .ok b) :
    ∃ a, result = .ok a ∧ b = f a := by
  cases result with
  | error error => cases hMap
  | ok a => exact ⟨a, rfl, (Except.ok.inj hMap).symm⟩

/- A result that is there is there when it is mapped. -/
theorem exists_map_eq_ok
    {result : Except ε α}
    (hResult : ∃ a, result = .ok a)
    (f : α → β) : ∃ b, result.map f = .ok b := by
  rcases hResult with ⟨a, rfl⟩
  exact ⟨f a, rfl⟩

/- A result in two steps is that of both steps. -/
theorem exists_of_bind_eq_ok
    {result : Except ε α}
    {next : α → Except ε β}
    {b : β}
    (hBind : result >>= next = .ok b) :
    ∃ a, result = .ok a ∧ next a = .ok b := by
  cases result with
  | error error => cases hBind
  | ok a => exact ⟨a, rfl, hBind⟩

/- A result is mapped to those of its values. -/
theorem map_eq_ok_iff
    {f : α → β}
    {result : Except ε α}
    {b : β} :
    result.map f = .ok b ↔ ∃ a, result = .ok a ∧ b = f a := by
  refine ⟨exists_of_map_eq_ok, ?_⟩
  rintro ⟨a, rfl, rfl⟩
  rfl

/- Two steps have a result when both of them have. -/
theorem bind_eq_ok_iff
    {result : Except ε α}
    {next : α → Except ε β}
    {b : β} :
    result >>= next = .ok b ↔
      ∃ a, result = .ok a ∧ next a = .ok b := by
  refine ⟨exists_of_bind_eq_ok, ?_⟩
  rintro ⟨a, rfl, hNext⟩
  exact hNext

/- A result is there however its error is told. -/
theorem mapError_eq_ok_iff
    {f : ε → δ}
    {result : Except ε α}
    {a : α} :
    result.mapError f = .ok a ↔ result = .ok a := by
  cases result with
  | error error => exact iff_of_false nofun nofun
  | ok b =>
      constructor
      · rintro ⟨⟩
        rfl
      · rintro ⟨⟩
        rfl

/- An error is told as one that there was before. -/
theorem mapError_eq_error_iff
    {f : ε → δ}
    {result : Except ε α}
    {error : δ} :
    result.mapError f = .error error ↔
      ∃ cause, result = .error cause ∧ error = f cause := by
  cases result with
  | error cause =>
      constructor
      · rintro ⟨⟩
        exact ⟨cause, rfl, rfl⟩
      · rintro ⟨other, hOther, rfl⟩
        cases hOther
        rfl
  | ok a =>
      refine iff_of_false nofun ?_
      rintro ⟨cause, hCause, _⟩
      cases hCause

/- How an error is told does not matter to the values. -/
theorem map_mapError
    (f : ε → δ)
    (g : α → β)
    (result : Except ε α) :
    (result.mapError f).map g = (result.map g).mapError f := by
  cases result <;> rfl

/- Results that map alike are one error, or values that do. -/
theorem cases_of_map_eq_map
    {f : α → β}
    {first second : Except ε α}
    (hMap : first.map f = second.map f) :
    (∃ error, first = .error error ∧ second = .error error) ∨
      ∃ a b, first = .ok a ∧ second = .ok b ∧ f a = f b := by
  cases first with
  | error error =>
      cases second with
      | error other =>
          cases hMap
          exact .inl ⟨error, rfl, rfl⟩
      | ok b => cases hMap
  | ok a =>
      cases second with
      | error other => cases hMap
      | ok b => exact .inr ⟨a, b, rfl, rfl, Except.ok.inj hMap⟩

/- All items are read, each to the result in its place. -/
theorem mapM_eq_ok_iff
    {read : α → Except ε β}
    {items : List α}
    {results : List β} :
    items.mapM read = .ok results ↔
      items.map read = results.map .ok := by
  induction items generalizing results with
  | nil =>
      cases results with
      | nil => exact iff_of_true rfl rfl
      | cons result rest => exact iff_of_false nofun nofun
  | cons item rest ih =>
      rw [List.mapM_cons, List.map_cons]
      constructor
      · intro hRead
        rcases exists_of_bind_eq_ok hRead with
          ⟨first, hFirst, hOthers⟩
        rcases exists_of_bind_eq_ok hOthers with
          ⟨others, hRest, hResults⟩
        cases hResults
        rw [List.map_cons, hFirst, ih.mp hRest]
      · intro hRead
        cases results with
        | nil => cases hRead
        | cons first others =>
            rcases List.cons_eq_cons.mp hRead with
              ⟨hFirst, hRest⟩
            rw [hFirst, ih.mpr hRest]
            rfl

end TracePlayer
