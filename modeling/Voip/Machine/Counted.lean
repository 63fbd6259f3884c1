import Mathlib.Logic.Basic

namespace machine

/-- A computation that can fail, with the steps it takes. -/
structure Counted (ε α : Type) where
  result : Except ε α
  steps : Nat

namespace Counted

variable {ε α β : Type}

def ofExcept (result : Except ε α) : Counted ε α := ⟨result, 0⟩

/-- Takes a number of steps. -/
def tick (steps : Nat) : Counted ε Unit := ⟨.ok (), steps⟩

/-- A failure ends the computation. -/
def andThen (first : Counted ε α) (next : α → Counted ε β) : Counted ε β :=
  match first.result with
  | .ok value => ⟨(next value).result, first.steps + (next value).steps⟩
  | .error failure => ⟨.error failure, first.steps⟩

instance : Monad (Counted ε) where
  pure value := ⟨.ok value, 0⟩
  bind := andThen

theorem bind_of_ok {first : Counted ε α} {value : α} (hfirst : first.result = .ok value)
    (next : α → Counted ε β) :
    (first >>= next) = ⟨(next value).result, first.steps + (next value).steps⟩ := by
  change andThen first next = _
  rw [andThen, hfirst]

theorem ok_bind (value : α) (steps : Nat) (next : α → Counted ε β) :
    ((⟨.ok value, steps⟩ : Counted ε α) >>= next) = ⟨(next value).result, steps + (next value).steps⟩ := rfl

theorem tick_bind (steps : Nat) (next : Unit → Counted ε β) :
    (tick steps >>= next) = ⟨(next ()).result, steps + (next ()).steps⟩ := rfl

end Counted

end machine
