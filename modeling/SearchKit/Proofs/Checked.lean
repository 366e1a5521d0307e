import Mathlib.Data.List.Forall2

/-!
Steps that may be refused, one after another and over a list: when the whole succeeds, and with
what, and when and how it fails.
-/

namespace SearchKit.Checked

set_option autoImplicit false

variable {ε α β : Type}

theorem bind_eq_ok (checked : Except ε α) (next : α → Except ε β) (result : β) :
    (checked >>= next) = .ok result ↔ ∃ value, checked = .ok value ∧ next value = .ok result := by
  cases checked <;> simp [Bind.bind, Except.bind]

theorem bind_eq_error (checked : Except ε α) (next : α → Except ε β) (fault : ε) :
    (checked >>= next) = .error fault ↔
      checked = .error fault ∨ ∃ value, checked = .ok value ∧ next value = .error fault := by
  cases checked <;> simp [Bind.bind, Except.bind]

theorem map_eq_ok (change : α → β) (checked : Except ε α) (result : β) :
    checked.map change = .ok result ↔ ∃ value, checked = .ok value ∧ change value = result := by
  cases checked <;> simp [Except.map]

theorem map_error_eq_ok {φ : Type} (change : ε → φ) (checked : Except ε α) (result : α) :
    checked.mapError change = .ok result ↔ checked = .ok result := by
  cases checked <;> simp [Except.mapError]

theorem map_eq_error (change : α → β) (checked : Except ε α) (fault : ε) :
    checked.map change = .error fault ↔ checked = .error fault := by
  cases checked <;> simp [Except.map]

theorem map_error_eq_error {φ : Type} (change : ε → φ) (checked : Except ε α) (fault : φ) :
    checked.mapError change = .error fault ↔
      ∃ cause, checked = .error cause ∧ change cause = fault := by
  cases checked <;> simp [Except.mapError]

theorem pure_eq_ok (value result : α) :
    (pure value : Except ε α) = .ok result ↔ value = result := by
  simp [Pure.pure, Except.pure]

theorem bind_pure_eq_ok (checked : Except ε α) (change : α → β) (result : β) :
    (checked >>= fun value => pure (change value)) = .ok result ↔
      ∃ value, checked = .ok value ∧ change value = result := by
  simp only [bind_eq_ok, pure_eq_ok]

theorem exists_forall₂_iff (relates : α → β → Prop) (values : List α) :
    (∃ results, List.Forall₂ relates values results) ↔
      ∀ value ∈ values, ∃ result, relates value result := by
  induction values with
  | nil => simp
  | cons value rest ih =>
      rw [List.forall_mem_cons, ← ih]
      constructor
      · rintro ⟨_, first | ⟨first, later⟩⟩
        exact ⟨⟨_, first⟩, ⟨_, later⟩⟩
      · rintro ⟨⟨result, first⟩, ⟨further, later⟩⟩
        exact ⟨result :: further, .cons first later⟩

theorem map_m_eq_ok (step : α → Except ε β) (values : List α) (results : List β) :
    values.mapM step = .ok results ↔
      List.Forall₂ (fun value result => step value = .ok result) values results := by
  induction values generalizing results with
  | nil => cases results <;> simp [pure_eq_ok]
  | cons value rest ih =>
      simp only [List.mapM_cons, bind_eq_ok, pure_eq_ok, ih]
      cases results with
      | nil => simp
      | cons result further =>
          simp only [List.forall₂_cons, List.cons.injEq]
          constructor
          · rintro ⟨_, first, _, later, rfl, rfl⟩
            exact ⟨first, later⟩
          · rintro ⟨first, later⟩
            exact ⟨result, first, further, later, rfl, rfl⟩

theorem map_m_eq_error (step : α → Except ε β) (values : List α) (fault : ε) :
    values.mapM step = .error fault ↔
      ∃ before value after, values = before ++ value :: after ∧
        (∀ earlier ∈ before, ∃ result, step earlier = .ok result) ∧ step value = .error fault := by
  induction values with
  | nil => simp [Pure.pure, Except.pure]
  | cons value rest ih =>
      have failsLater (result : β) :
          (rest.mapM step >>= fun results => pure (result :: results)) = .error fault ↔
            rest.mapM step = .error fault := by
        rw [bind_eq_error]
        simp [Pure.pure, Except.pure]
      simp only [List.mapM_cons, bind_eq_error, failsLater, ih]
      constructor
      · rintro (first | ⟨result, went, before, failing, after, rfl, earlier, failed⟩)
        · exact ⟨[], value, rest, rfl, by simp, first⟩
        · exact ⟨value :: before, failing, after, rfl,
            List.forall_mem_cons.mpr ⟨⟨result, went⟩, earlier⟩, failed⟩
      · rintro ⟨before, failing, after, split, earlier, failed⟩
        cases before with
        | nil =>
            rw [List.nil_append, List.cons.injEq] at split
            exact .inl (split.1 ▸ failed)
        | cons first more =>
            rw [List.cons_append, List.cons.injEq] at split
            obtain ⟨rfl, rfl⟩ := split
            obtain ⟨⟨result, went⟩, between⟩ := List.forall_mem_cons.mp earlier
            exact .inr ⟨result, went, more, failing, after, rfl, between, failed⟩

theorem succeeds_or_fails (checked : Except ε α) :
    (∃ value, checked = .ok value) ∨ ∃ fault, checked = .error fault := by
  cases checked with
  | ok value => exact .inl ⟨value, rfl⟩
  | error fault => exact .inr ⟨fault, rfl⟩

theorem exists_of_is_ok {checked : Except ε α} (succeeds : checked.isOk = true) :
    ∃ value, checked = .ok value := by
  cases checked with
  | error fault => contradiction
  | ok value => exact ⟨value, rfl⟩

theorem ok_bind (value : α) (next : α → Except ε β) : (.ok value >>= next) = next value := rfl

theorem fold_m_keeps (holds : α → Prop) {step : α → β → Except ε α}
    (each : ∀ {state value next}, step state value = .ok next → holds state → holds next)
    {values : List β} {start final : α} (folded : values.foldlM step start = .ok final)
    (begins : holds start) : holds final := by
  induction values generalizing start with
  | nil =>
      rw [List.foldlM_nil, pure_eq_ok] at folded
      exact folded ▸ begins
  | cons value rest ih =>
      rw [List.foldlM_cons, bind_eq_ok] at folded
      obtain ⟨next, stepped, further⟩ := folded
      exact ih further (each stepped begins)

theorem fold_m_skips {step : α → β → Except ε α} {values : List β} {state : α}
    (each : ∀ value ∈ values, step state value = .ok state) :
    values.foldlM step state = .ok state := by
  induction values with
  | nil => rfl
  | cons value rest ih =>
      rw [List.forall_mem_cons] at each
      rw [List.foldlM_cons, each.1]
      exact ih each.2

end SearchKit.Checked
