import Mathlib

/-! What a computation that may raise returned, read back step by step. -/
namespace PgLlmBatch.Base.Fallible
variable {ε α β : Type}

theorem bindOk {x : Except ε α} {f : α → Except ε β} {b : β} :
    (x >>= f) = .ok b ↔ ∃ a, x = .ok a ∧ f a = .ok b := by
  cases x with
  | ok a =>
    constructor
    · exact fun h => ⟨a,rfl,h⟩
    · rintro ⟨c,same,h⟩
      cases same
      exact h
  | error e =>
    constructor
    · intro h
      cases h
    · rintro ⟨c,same,-⟩
      cases same

theorem mapOk {x : Except ε α} {f : α → β} {b : β} : (f <$> x) = .ok b ↔ ∃ a, x = .ok a ∧ f a = b := by
  cases x with
  | ok a =>
    constructor
    · exact fun h => ⟨a,rfl,Except.ok.inj h⟩
    · rintro ⟨c,same,rfl⟩
      cases same
      rfl
  | error e =>
    constructor
    · intro h
      cases h
    · rintro ⟨c,same,-⟩
      cases same

end PgLlmBatch.Base.Fallible
