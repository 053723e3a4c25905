/-!
This module contains what is known of steps whose result is a value or a failure.
-/

namespace CallScope

theorem exists_of_bind_eq_ok {ε α β : Type} {x : Except ε α} {f : α → Except ε β} {b : β} (h : x >>= f = .ok b) :
    ∃ a, x = .ok a ∧ f a = .ok b := by
  cases x with
  | error fault => cases h
  | ok a => exact ⟨a, rfl, h⟩

theorem eq_none_of_elim_eq_ok {α ε δ : Type} {fault? : Option δ} {f : δ → ε} {a b : α}
    (h : fault?.elim (Except.ok a) (fun fault => .error (f fault)) = .ok b) : fault? = none := by
  cases fault? with
  | none => rfl
  | some fault => cases h

end CallScope
