/-! When a computation that can fail gives a result and when a fault, step by step. -/
namespace PasswordAudit

variable {ε δ α β : Type}

theorem Except.bind_eq_ok_iff (first : Except ε α) (next : α → Except ε β) (result : β) :
    (first >>= next) = .ok result ↔ ∃ value, first = .ok value ∧ next value = .ok result := by
  cases first with
  | error fault => simp [bind, Except.bind]
  | ok value => simp [bind, Except.bind]

theorem Except.bind_eq_error_iff (first : Except ε α) (next : α → Except ε β) (fault : ε) :
    (first >>= next) = .error fault ↔
      first = .error fault ∨ ∃ value, first = .ok value ∧ next value = .error fault := by
  cases first with
  | error other => simp [bind, Except.bind]
  | ok value => simp [bind, Except.bind]

theorem Except.map_eq_ok_iff (f : α → β) (outcome : Except ε α) (result : β) :
    outcome.map f = .ok result ↔ ∃ value, outcome = .ok value ∧ f value = result := by
  cases outcome <;> simp [Except.map]

theorem Except.mapError_eq_ok_iff (f : ε → δ) (outcome : Except ε α) (result : α) :
    outcome.mapError f = .ok result ↔ outcome = .ok result := by
  cases outcome with
  | error cause => exact iff_of_false nofun nofun
  | ok value =>
    change Except.ok value = .ok result ↔ _
    simp

theorem Except.mapError_eq_error_iff (f : ε → δ) (outcome : Except ε α) (fault : δ) :
    outcome.mapError f = .error fault ↔ ∃ cause, outcome = .error cause ∧ f cause = fault := by
  cases outcome with
  | error cause =>
    change Except.error (f cause) = .error fault ↔ _
    simp
  | ok value =>
    change Except.ok value = .error fault ↔ _
    simp

end PasswordAudit
