import Mathlib.Logic.Basic

namespace result

variable {ε ε' α β : Type}

/-- A sequence succeeds when its parts do, one after the other. -/
theorem ok_bind (value : α) (next : α → Except ε β) : (Except.ok value >>= next) = next value := rfl

theorem mapError_ok (value : α) (convert : ε → ε') : (Except.ok value).mapError convert = .ok value := rfl

@[simp] theorem bind_eq_ok {first : Except ε α} {next : α → Except ε β} {value : β} :
    (first >>= next) = .ok value ↔ ∃ middle, first = .ok middle ∧ next middle = .ok value := by
  cases first with
  | error e => simp [bind, Except.bind]
  | ok middle => simp [bind, Except.bind]

@[simp] theorem map_eq_ok {first : Except ε α} {convert : α → β} {value : β} :
    (convert <$> first) = .ok value ↔ ∃ middle, first = .ok middle ∧ convert middle = value := by
  cases first with
  | error e => simp [Functor.map, Except.map]
  | ok middle => simp [Functor.map, Except.map]

@[simp] theorem mapError_eq_ok {first : Except ε α} {convert : ε → ε'} {value : α} :
    first.mapError convert = .ok value ↔ first = .ok value := by
  cases first with
  | error e => exact ⟨nofun, nofun⟩
  | ok middle => rw [mapError_ok, Except.ok.injEq, Except.ok.injEq]

@[simp] theorem throw_eq_ok {failure : ε} {value : α} :
    (throw failure : Except ε α) = .ok value ↔ False := by
  simp [throw, throwThe, MonadExceptOf.throw]

@[simp] theorem pure_eq_ok {result value : α} : (pure result : Except ε α) = .ok value ↔ result = value := by
  simp [pure, Except.pure]

/-- A check that leaves early succeeds when it passes and the rest succeeds. -/
@[simp] theorem ite_throw_eq_ok {condition : Prop} [Decidable condition] {failure : ε}
    {rest : Except ε α} {value : α} :
    (if condition then throw failure else rest) = .ok value ↔ ¬condition ∧ rest = .ok value := by
  split <;> simp_all

@[simp] theorem ite_error_eq_ok {condition : Prop} [Decidable condition] {failure : ε}
    {rest : Except ε α} {value : α} :
    (if condition then .error failure else rest) = .ok value ↔ ¬condition ∧ rest = .ok value := by
  split <;> simp_all

end result
