/-!
# Steps one after another

What is known when steps that may fail have ended well, and what is left of steps on a state once it
is known what the first of them does.
-/

namespace BuoyGateway

theorem bind_eq_ok {ε α β : Type} {x : Except ε α} {f : α → Except ε β} {b : β} :
    x >>= f = .ok b ↔ ∃ a, x = .ok a ∧ f a = .ok b := by
  cases x <;> simp [bind, Except.bind]

theorem mapError_eq_ok {ε ε' α : Type} {x : Except ε α} {f : ε → ε'} {a : α} :
    x.mapError f = .ok a ↔ x = .ok a := by
  cases x with
  | error e => exact ⟨nofun, nofun⟩
  | ok b =>
    constructor <;>
    · intro h
      cases h
      rfl

/-- What is left to do after a first step that is known. -/
theorem bind_of_eq {σ α β : Type} {m : StateM σ α} {f : α → StateM σ β} {s s' : σ} {a : α}
    (h : m s = (a, s')) : (m >>= f) s = f a s' := by
  change f (m s).1 (m s).2 = _
  rw [h]

end BuoyGateway
