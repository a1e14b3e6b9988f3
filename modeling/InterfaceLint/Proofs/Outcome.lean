/-!
# Outcomes of steps that can fail

What it takes for a sequence of steps to succeed or to fail, so that a run is
taken apart step by step.
-/

set_option autoImplicit false

namespace InterfaceLint

theorem bind_eq_ok_iff {ε α β : Type} {first : Except ε α} {next : α → Except ε β} {final : β} :
    first >>= next = .ok final ↔ ∃ value, first = .ok value ∧ next value = .ok final := by
  cases first <;> simp [bind, Except.bind]

theorem bind_eq_error_iff {ε α β : Type} {first : Except ε α} {next : α → Except ε β} {cause : ε} :
    first >>= next = .error cause ↔
      first = .error cause ∨ ∃ value, first = .ok value ∧ next value = .error cause := by
  cases first <;> simp [bind, Except.bind]

theorem mapError_eq_ok_iff {ε δ α : Type} {wrap : ε → δ} {outcome : Except ε α} {value : α} :
    outcome.mapError wrap = .ok value ↔ outcome = .ok value := by
  cases outcome with
  | ok found =>
      change Except.ok found = .ok value ↔ Except.ok found = .ok value
      rw [Except.ok.injEq, Except.ok.injEq]
  | error cause =>
      change Except.error (wrap cause) = .ok value ↔ Except.error cause = .ok value
      exact iff_of_false nofun nofun

theorem mapError_eq_error_iff {ε δ α : Type} {wrap : ε → δ} {outcome : Except ε α} {reason : δ} :
    outcome.mapError wrap = .error reason ↔
      ∃ cause, outcome = .error cause ∧ wrap cause = reason := by
  cases outcome with
  | ok found =>
      change Except.ok found = .error reason ↔ _
      simp
  | error cause =>
      change Except.error (wrap cause) = .error reason ↔ _
      simp

theorem toOption_eq_some_iff {ε α : Type} {outcome : Except ε α} {value : α} :
    outcome.toOption = some value ↔ outcome = .ok value := by
  cases outcome <;> simp [Except.toOption]

/-! ## One check after the other -/

section

variable {ε α : Type} {check : α → Except ε Unit}

theorem forM_cons_eq (item : α) (items : List α) :
    (item :: items).forM check = check item >>= fun _ => items.forM check := rfl

theorem forM_eq_ok_iff {items : List α} {done : Unit} :
    items.forM check = .ok done ↔ ∀ item ∈ items, check item = .ok () := by
  induction items with
  | nil => simp [pure, Except.pure]
  | cons item items induction =>
      rw [forM_cons_eq, bind_eq_ok_iff, List.forall_mem_cons, ← induction]
      constructor
      · rintro ⟨_, passed, rest⟩
        exact ⟨passed, rest⟩
      · rintro ⟨passed, rest⟩
        exact ⟨(), passed, rest⟩

/-- The error is that of the first item with one. -/
theorem forM_eq_error_iff {items : List α} {cause : ε} :
    items.forM check = .error cause ↔
      ∃ before item after, items = before ++ item :: after ∧
        (∀ earlier ∈ before, check earlier = .ok ()) ∧ check item = .error cause := by
  induction items with
  | nil => simp [pure, Except.pure]
  | cons head items induction =>
      rw [forM_cons_eq, bind_eq_error_iff, induction]
      constructor
      · rintro (failed | ⟨_, passed, before, item, after, rfl, fine, failed⟩)
        · exact ⟨[], head, items, rfl, by simp, failed⟩
        · exact ⟨head :: before, item, after, rfl, List.forall_mem_cons.mpr ⟨passed, fine⟩, failed⟩
      · rintro ⟨before, item, after, split, fine, failed⟩
        cases before with
        | nil =>
            cases split
            exact .inl failed
        | cons first before =>
            cases split
            obtain ⟨passed, fine⟩ := List.forall_mem_cons.mp fine
            exact .inr ⟨(), passed, before, item, after, rfl, fine, failed⟩

end

end InterfaceLint
